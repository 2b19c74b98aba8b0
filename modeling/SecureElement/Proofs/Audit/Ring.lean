/-
  SecureElement.Proofs.Audit.Ring

  A ring as the list of its newest elements.  `Ring.toList_push` says what one more element does to
  the list, whether or not the ring was full.  `Ring.Cursor.Yields` is what a walk gives out until it
  ends, without a bound on its steps, and `Ring.yields_cursor` says that the walk over the cells gives
  out the elements of the list, each once and in their order.
-/
import Mathlib.Data.List.DropRight
import SecureElement.Audit.Ring

namespace SecureElement

namespace Ring

variable {α : Type} {capacity : Nat}

/-! ## The end of a list -/

theorem rtake_of_length_le {elements : List α} {count : Nat} (h : elements.length ≤ count) :
    elements.rtake count = elements := by
  rw [List.rtake, Nat.sub_eq_zero_of_le h, List.drop_zero]

theorem length_rtake (elements : List α) (count : Nat) :
    (elements.rtake count).length = min count elements.length := by
  rw [List.rtake, List.length_drop]
  omega

/-- The newest element is among the newest ones. -/
theorem getLast?_rtake (elements : List α) {count : Nat} (h : 0 < count) :
    (elements.rtake count).getLast? = elements.getLast? := by
  rw [List.rtake, List.getLast?_drop]
  split
  next hnone =>
    obtain rfl : elements = [] := List.eq_nil_of_length_eq_zero (by omega)
    rfl
  next => rfl

theorem map_rtake {β : Type} (f : α → β) (elements : List α) (count : Nat) :
    (elements.rtake count).map f = (elements.map f).rtake count := by
  rw [List.rtake, List.rtake, List.map_drop, List.length_map]

/-- The newest elements are found as well among the newest of those before and the later ones. -/
theorem rtake_rtake_append (before later : List α) (count : Nat) :
    (before.rtake count ++ later).rtake count = (before ++ later).rtake count := by
  have hsplit : before.rtake count ++ later =
      (before ++ later).drop (before.length - count) := by
    rw [List.rtake, List.drop_append_of_le_length (Nat.sub_le _ _)]
  rw [hsplit, List.rtake, List.rtake, List.drop_drop, List.length_drop]
  congr 1
  rw [List.length_append]
  omega

/-! ## The elements of a ring -/

theorem length_toList (ring : Ring α capacity) : ring.toList.length = ring.size := by
  have holdest := ring.oldest_lt
  simp only [toList, List.length_append, List.length_drop, List.length_take, Array.length_toList,
    size]
  omega

theorem length_toList_le (ring : Ring α capacity) : ring.toList.length ≤ capacity := by
  rw [length_toList]
  exact ring.size_le

/-- The last element is the newest, whether or not the ring has begun to give up elements. -/
theorem last?_eq_getLast? (ring : Ring α capacity) : ring.last? = ring.toList.getLast? := by
  rw [last?, toList]
  by_cases hfirst : ring.oldest = 0
  · rw [if_pos hfirst, hfirst, List.drop_zero, List.take_zero, List.append_nil, Array.getLast?_toList]
  · have hinside : ring.oldest < ring.cells.size := ring.oldest_lt.resolve_right hfirst
    have hcell : ring.cells[ring.oldest - 1]? = some ring.cells[ring.oldest - 1] :=
      Array.getElem?_eq_getElem (by omega)
    rw [if_neg hfirst, List.getLast?_append, List.getLast?_take, if_neg hfirst, Array.getElem?_toList,
      hcell, Option.some_or, Option.some_or]

/-- While there is room, the elements lie in order from the first cell on. -/
theorem toList_of_room {ring : Ring α capacity} (room : ring.cells.size < capacity) :
    ring.toList = ring.cells.toList := by
  rw [toList, ring.oldest_eq_zero room, List.drop_zero, List.take_zero, List.append_nil]

/-- The place after the last cell is the first cell. -/
theorem drop_append_take_mod {cells : List α} {place : Nat} (h : place ≤ cells.length) :
    cells.drop (place % cells.length) ++ cells.take (place % cells.length) =
      cells.drop place ++ cells.take place := by
  rcases Nat.lt_or_eq_of_le h with hlt | rfl
  · rw [Nat.mod_eq_of_lt hlt]
  · rw [Nat.mod_self, List.drop_length, List.take_length, List.drop_zero, List.take_zero,
      List.append_nil, List.nil_append]

theorem take_set_succ {cells : List α} {place : Nat} (h : place < cells.length) (element : α) :
    (cells.set place element).take (place + 1) = cells.take place ++ [element] := by
  have hlength : (cells.take place).length = place := by
    rw [List.length_take, Nat.min_eq_left (Nat.le_of_lt h)]
  rw [List.set_eq_take_append_cons_drop, if_pos h, List.take_append, hlength,
    List.take_of_length_le (by omega), Nat.add_sub_cancel_left]
  rfl

/-- A ring that is full gives up its oldest element for the new one. -/
theorem toList_push_of_full {ring : Ring α capacity} (full : ¬ ring.cells.size < capacity)
    (inside : ring.oldest < ring.cells.size) (element : α) :
    (ring.push element).toList = ring.toList.tail ++ [element] := by
  have hinside : ring.oldest < ring.cells.toList.length := by
    rwa [Array.length_toList]
  have hlength : (ring.cells.toList.set ring.oldest element).length = ring.cells.size := by
    rw [List.length_set, Array.length_toList]
  have hpush : (ring.push element).toList =
      (ring.cells.toList.set ring.oldest element).drop ((ring.oldest + 1) % ring.cells.size) ++
        (ring.cells.toList.set ring.oldest element).take ((ring.oldest + 1) % ring.cells.size) := by
    simp only [push, dif_neg full, dif_pos inside, toList, Array.toList_set]
  have htail : ring.toList.tail =
      ring.cells.toList.drop (ring.oldest + 1) ++ ring.cells.toList.take ring.oldest := by
    rw [toList, List.drop_eq_getElem_cons hinside, List.cons_append, List.tail_cons]
  rw [hpush, ← hlength, drop_append_take_mod (by rw [hlength]; exact inside),
    List.drop_set_of_lt (Nat.lt_succ_self _), take_set_succ hinside, htail, List.append_assoc]

/-- After one more element, the ring has the newest elements, as many as it has cells. -/
theorem toList_push (ring : Ring α capacity) (element : α) :
    (ring.push element).toList = (ring.toList ++ [element]).rtake capacity := by
  by_cases room : ring.cells.size < capacity
  · have hfits : (ring.toList ++ [element]).length ≤ capacity := by
      rw [List.length_append, length_toList]
      exact room
    have hpush : (ring.push element).cells = ring.cells.push element := by
      rw [push, dif_pos room]
    have holdest : (ring.push element).oldest = 0 := by
      rw [push, dif_pos room]
      exact ring.oldest_eq_zero room
    rw [rtake_of_length_le hfits, toList, hpush, holdest, toList_of_room room, List.drop_zero,
      List.take_zero, List.append_nil, Array.toList_push]
  · have hsize : ring.size = capacity := Nat.le_antisymm ring.size_le (Nat.not_lt.mp room)
    have hcount : ring.toList.length = capacity := by rw [length_toList, hsize]
    by_cases inside : ring.oldest < ring.cells.size
    · have hpositive : 0 < ring.toList.length := by
        rw [length_toList]
        exact Nat.zero_lt_of_lt inside
      have hone : (ring.toList ++ [element]).length - capacity = 1 := by
        rw [List.length_append, List.length_singleton, hcount]
        omega
      rw [toList_push_of_full room inside, List.rtake, hone, List.drop_one,
        List.tail_append_of_ne_nil (List.ne_nil_of_length_pos hpositive)]
    · -- there is no cell at all, so the ring stays empty
      have hnone : capacity = 0 := by
        have holdest := ring.oldest_lt
        unfold size at hsize
        omega
      subst hnone
      rw [push, dif_neg room, dif_neg inside, List.rtake_zero]
      exact List.eq_nil_of_length_eq_zero hcount

/-! ## Walking over the elements -/

/-- The elements are met cell after cell, from the oldest on and around the end. -/
theorem getElem?_toList (ring : Ring α capacity) {place : Nat} (h : place < ring.size) :
    ring.toList[place]? = ring.cells[(ring.oldest + place) % ring.size]? := by
  have holdest := ring.oldest_lt
  have hle : ring.oldest ≤ ring.cells.toList.length := by
    rw [Array.length_toList]
    omega
  unfold size at h ⊢
  rw [toList, ← Array.getElem?_toList, List.getElem?_append, List.length_drop, Array.length_toList]
  by_cases hbefore : place < ring.cells.size - ring.oldest
  · rw [if_pos hbefore, List.getElem?_drop, Nat.mod_eq_of_lt (by omega)]
  · have hmod : (ring.oldest + place) % ring.cells.size =
        place - (ring.cells.size - ring.oldest) := by
      rw [Nat.mod_eq_sub_mod (by omega), Nat.mod_eq_of_lt (by omega)]
      omega
    rw [if_neg hbefore, hmod, List.getElem?_take_of_lt (by omega)]

namespace Cursor

/-- A walk gives out these elements, one in every step, and then ends. -/
inductive Yields : Cursor α capacity → List α → Prop where
  | done {cursor : Cursor α capacity} (hnext : cursor.next? = none) : Yields cursor []
  | next {cursor rest : Cursor α capacity} {element : α} {elements : List α}
      (hnext : cursor.next? = some (element, rest)) (hrest : Yields rest elements) :
      Yields cursor (element :: elements)

theorem Yields.unique {cursor : Cursor α capacity} {elements other : List α}
    (h : cursor.Yields elements) (hother : cursor.Yields other) : elements = other := by
  induction h generalizing other with
  | done hnext =>
    cases hother with
    | done => rfl
    | next hsome => rw [hnext] at hsome; cases hsome
  | next hnext _ ih =>
    cases hother with
    | done hnone => rw [hnext] at hnone; cases hnone
    | next hsome hrest =>
      rw [hnext] at hsome
      cases hsome
      rw [ih hrest]

/-- As many steps as there are elements meet them all. -/
theorem Yields.collect_eq {cursor : Cursor α capacity} {elements : List α}
    (h : cursor.Yields elements) : cursor.collect elements.length = elements := by
  induction h with
  | done => rfl
  | next hnext _ ih =>
    rw [List.length_cons, collect, hnext]
    simp only [ih]

/-- A step of a walk meets the first element that was not passed yet. -/
theorem next?_eq_some (ring : Ring α capacity) {passed remaining : Nat}
    (h : passed + (remaining + 1) = ring.size) (hinside : passed < ring.toList.length) :
    next? ⟨ring, passed, remaining + 1⟩ =
      some (ring.toList[passed], ⟨ring, passed + 1, remaining⟩) := by
  have hcell : ring.cells[(ring.oldest + passed) % ring.size]? = some ring.toList[passed] := by
    rw [← getElem?_toList ring (by omega), List.getElem?_eq_getElem hinside]
  rw [next?]
  simp only [hcell, Option.map_some]

/-- The rest of a walk gives out the elements that were not passed yet. -/
theorem yields_drop (ring : Ring α capacity) {passed remaining : Nat}
    (h : passed + remaining = ring.size) :
    Yields ⟨ring, passed, remaining⟩ (ring.toList.drop passed) := by
  induction remaining generalizing passed with
  | zero =>
    rw [List.drop_eq_nil_of_le (by rw [length_toList]; omega)]
    exact .done rfl
  | succ remaining ih =>
    have hinside : passed < ring.toList.length := by
      rw [length_toList]
      omega
    rw [List.drop_eq_getElem_cons hinside]
    exact .next (next?_eq_some ring h hinside) (ih (by omega))

end Cursor

/-- A walk gives out every element once, the oldest first, and then ends. -/
theorem yields_cursor (ring : Ring α capacity) : ring.cursor.Yields ring.toList := by
  have h := Cursor.yields_drop ring (Nat.zero_add ring.size)
  rwa [List.drop_zero] at h

/-- A walk meets every element once, the oldest first. -/
theorem toList_cursor (ring : Ring α capacity) : ring.cursor.toList = ring.toList := by
  have h : ring.cursor.collect ring.toList.length = ring.toList := ring.yields_cursor.collect_eq
  rwa [length_toList] at h

example : ((((empty : Ring Nat 2).push 1).push 2).push 3).cursor.toList = [2, 3] := by
  decide

end Ring

end SecureElement
