/-
  SecureElement.Proofs.Medium.History

  The working memory medium as a map from records to images.  What it holds, and which commits it
  takes, is told by what was done to it: `RamDeed.told?` is the image that was committed last with
  the damage since, and `RamDeed.allowance` and `RamDeed.attempts` say how many commits were allowed
  and how many were tried.  The cells keep more than that, the tails of longer images and damage
  outside every image; `RamSession.history_decides` says that none of it ever shows.
-/
import Mathlib.Logic.Function.Iterate
import SecureElement.Proofs.Medium.Lawful

namespace SecureElement

/-! ## Orders -/

/-- What can be done to a medium in working memory. -/
inductive RamOrder where
  | load (id : RecordId) (room : Nat)
  | commit (id : RecordId) (image : Bytes)
  | damage (id : RecordId) (offset : Nat)
  | limit (count : Nat)
  | lift
deriving DecidableEq

/-- An order that was carried out or refused. -/
structure RamDeed where
  order : RamOrder
  reply : Except MediumError (Option Bytes)

namespace RamMedium

variable {records capacity : Nat}

/-- Carries out an order; only a load has something to give back. -/
def execute (medium : RamMedium records capacity) :
    RamOrder → Except MediumError (Option Bytes) × RamMedium records capacity
  | .load id room => (medium.load id room, medium)
  | .commit id image =>
    match medium.commit id image with
    | .ok after => (.ok none, after)
    | .error error => (.error error, medium)
  | .damage id offset => (.ok none, medium.damage id offset)
  | .limit count => (.ok none, medium.limitCommits count)
  | .lift => (.ok none, medium.liftLimit)

/-! ## What an order does -/

theorem budget_damage (medium : RamMedium records capacity) (id : RecordId) (offset : Nat) :
    (medium.damage id offset).budget = medium.budget := by
  rw [damage]
  split <;> rfl

theorem commits_damage (medium : RamMedium records capacity) (id : RecordId) (offset : Nat) :
    (medium.damage id offset).commits = medium.commits := by
  rw [damage]
  split <;> rfl

/-- How a commit goes is decided by its record, by the size of its image and by the budget, in this
order. -/
theorem reply_commit (medium : RamMedium records capacity) (id : RecordId) (image : Bytes) :
    (medium.execute (.commit id image)).1 =
      if records ≤ id.index then .error .unknownRecord
      else if capacity < image.length then .error .tooLarge
      else if medium.budget = some 0 then .error .notCommitted
      else .ok none := by
  rcases medium.commit_cases id image with
    ⟨known, fits, hbudget, hcommit⟩ | ⟨hreason, hcommit⟩
  · simp only [execute, hcommit]
    rw [if_neg (Nat.not_le.mpr known), if_neg (Nat.not_lt.mpr fits), if_neg hbudget]
  · simp only [execute, hcommit]
    split
    · rfl
    · split
      · rfl
      · rename_i hknown hfits
        rw [if_pos ((hreason.resolve_left hknown).resolve_left hfits)]

/-- What a commit does to the images is told by how it went. -/
theorem image?_execute_commit (medium : RamMedium records capacity) (id : RecordId)
    (image : Bytes) (other : RecordId) :
    (medium.execute (.commit id image)).2.image? other =
      match (medium.execute (.commit id image)).1 with
      | .ok _ => if other = id then some image else medium.image? other
      | .error _ => medium.image? other := by
  cases hcommit : medium.commit id image with
  | ok after =>
    simp only [execute, hcommit]
    exact image?_commit hcommit other
  | error refusal => simp only [execute, hcommit]

/-- Every commit in range takes one from the budget, as far as there is one; a commit out of range
takes nothing. -/
theorem budget_execute_commit (medium : RamMedium records capacity) (id : RecordId)
    (image : Bytes) :
    (medium.execute (.commit id image)).2.budget =
      if id.index < records && image.length ≤ capacity then medium.budget.map (· - 1)
      else medium.budget := by
  rcases medium.commit_cases id image with ⟨known, fits, -, hcommit⟩ | ⟨hreason, hcommit⟩
  · simp only [execute, hcommit, known, fits, decide_true, Bool.and_self, if_true]
  · simp only [execute, hcommit]
    split
    · -- a commit in range is refused for want of budget only
      rename_i hrange
      have hin : id.index < records ∧ image.length ≤ capacity := by simpa using hrange
      have hspent : medium.budget = some 0 :=
        (hreason.resolve_left (Nat.not_le.mpr hin.1)).resolve_left (Nat.not_lt.mpr hin.2)
      rw [hspent]
      rfl
    · rfl

/-- An order that is refused has no effect. -/
theorem execute_refused {medium : RamMedium records capacity} {order : RamOrder}
    {error : MediumError} (h : (medium.execute order).1 = .error error) :
    (medium.execute order).2 = medium := by
  cases order with
  | load id room => rfl
  | commit id image =>
    cases hcommit : medium.commit id image with
    | ok after =>
      simp only [execute, hcommit] at h
      cases h
    | error refusal => simp only [execute, hcommit]
  | damage | limit | lift => cases h

/-- The replies to orders that are carried out one after another. -/
def replies (medium : RamMedium records capacity) :
    List RamOrder → List (Except MediumError (Option Bytes))
  | [] => []
  | order :: orders => (medium.execute order).1 :: replies (medium.execute order).2 orders

/-- Media with the same images and the same budget. -/
structure Indistinguishable (first second : RamMedium records capacity) : Prop where
  image : ∀ id, first.image? id = second.image? id
  budget : first.budget = second.budget

namespace Indistinguishable

variable {first second : RamMedium records capacity}

theorem reply (h : first.Indistinguishable second) (order : RamOrder) :
    (first.execute order).1 = (second.execute order).1 := by
  cases order with
  | load id room =>
    show first.load id room = second.load id room
    rw [load_eq, load_eq, h.image]
  | commit id image => rw [reply_commit, reply_commit, h.budget]
  | damage | limit | lift => rfl

/-- Indistinguishable media stay so: neither the tail of a longer image nor damage behind it gets
into an image. -/
theorem step (h : first.Indistinguishable second) (order : RamOrder) :
    (first.execute order).2.Indistinguishable (second.execute order).2 := by
  cases order with
  | load => exact h
  | commit id image =>
    refine ⟨fun other => ?_, by rw [budget_execute_commit, budget_execute_commit, h.budget]⟩
    rw [image?_execute_commit, image?_execute_commit, h.reply, h.image]
  | damage id offset =>
    refine ⟨fun other => ?_, ?_⟩
    · show (first.damage id offset).image? other = (second.damage id offset).image? other
      rw [image?_damage, image?_damage, h.image]
    · show (first.damage id offset).budget = (second.damage id offset).budget
      rw [budget_damage, budget_damage, h.budget]
  | limit | lift => exact ⟨h.image, rfl⟩

theorem replies (h : first.Indistinguishable second) (orders : List RamOrder) :
    first.replies orders = second.replies orders := by
  induction orders generalizing first second with
  | nil => rfl
  | cons order orders ih =>
    rw [RamMedium.replies, RamMedium.replies, h.reply, ih (h.step order)]

end Indistinguishable

end RamMedium

/-! ## What the past tells -/

namespace RamDeed

/-- The image that a deed has committed to a record. -/
def committed? (id : RecordId) : RamDeed → Option Bytes
  | ⟨.commit other image, .ok _⟩ => if other = id then some image else none
  | _ => none

/-- The byte that a deed has damaged in a record. -/
def damaged? (id : RecordId) : RamDeed → Option Nat
  | ⟨.damage other offset, _⟩ => if other = id then some offset else none
  | _ => none

/-- The limit that a deed has set on the commits to come; `some none` stands for no limit. -/
def limit? : RamDeed → Option (Option Nat)
  | ⟨.limit count, _⟩ => some (some count)
  | ⟨.lift, _⟩ => some none
  | _ => none

/-- Whether a deed is a commit to a record that there is, of an image that fits. -/
def isInRange (records capacity : Nat) : RamDeed → Bool
  | ⟨.commit id image, _⟩ => id.index < records && image.length ≤ capacity
  | _ => false

/-- Whether a deed is a commit that took effect. -/
def isCommitted : RamDeed → Bool
  | ⟨.commit _ _, .ok _⟩ => true
  | _ => false

/-! In what follows the past has the latest deed first. -/

/-- The bytes of a record that were damaged since the last commit to it. -/
def damagedSince (id : RecordId) (past : List RamDeed) : List Nat :=
  (past.takeWhile fun deed => (deed.committed? id).isNone).filterMap (damaged? id)

/-- The image that a record has by what was done: the one that was committed last, each of its bytes
inverted as often as it was damaged since. -/
def told? (id : RecordId) (past : List RamDeed) : Option Bytes :=
  (past.findSome? (committed? id)).map fun image =>
    image.mapIdx fun offset byte => (· ^^^ 0xFF)^[(damagedSince id past).count offset] byte

/-- How many commits were allowed when this was decided last; `none` if there is no limit. -/
def allowance (past : List RamDeed) : Option Nat :=
  (past.findSome? limit?).join

/-- How many commits in range were tried since. -/
def attempts (records capacity : Nat) (past : List RamDeed) : Nat :=
  (past.takeWhile fun deed => deed.limit?.isNone).countP (isInRange records capacity)

section Cons

variable {id : RecordId} {deed : RamDeed} (past : List RamDeed)

theorem told?_cons_of_committed {image : Bytes} (h : deed.committed? id = some image) :
    told? id (deed :: past) = some image := by
  have hsince : damagedSince id (deed :: past) = [] := by
    rw [damagedSince, List.takeWhile_cons_of_neg (by simp [h])]
    rfl
  have hsame : image.mapIdx (fun offset byte =>
      (· ^^^ 0xFF)^[([] : List Nat).count offset] byte) = image := by
    refine List.ext_getElem? fun offset => ?_
    rw [List.getElem?_mapIdx]
    cases image[offset]? <;> rfl
  rw [told?, List.findSome?_cons_of_isSome (by simp [h]), h, hsince]
  exact congrArg some hsame

theorem told?_cons_of_damaged {offset : Nat} (hcommitted : deed.committed? id = none)
    (h : deed.damaged? id = some offset) :
    told? id (deed :: past) =
      (told? id past).map fun image => image.modify offset (· ^^^ 0xFF) := by
  have hsince : damagedSince id (deed :: past) = offset :: damagedSince id past := by
    rw [damagedSince, List.takeWhile_cons_of_pos (by simp [hcommitted]),
      List.filterMap_cons_some h]
    rfl
  rw [told?, told?, List.findSome?_cons_of_isNone (by simp [hcommitted]), hsince]
  cases past.findSome? (committed? id) with
  | none => rfl
  | some image =>
    refine congrArg some (List.ext_getElem? fun place => ?_)
    rw [List.getElem?_mapIdx, List.getElem?_modify, List.getElem?_mapIdx, List.count_cons]
    cases image[place]? with
    | none => rfl
    | some byte =>
      by_cases hplace : offset = place
      · -- one more inversion of this byte
        simp [hplace, Function.iterate_succ_apply']
      · simp [hplace]

theorem told?_cons_of_neither (hcommitted : deed.committed? id = none)
    (h : deed.damaged? id = none) : told? id (deed :: past) = told? id past := by
  have hsince : damagedSince id (deed :: past) = damagedSince id past := by
    rw [damagedSince, List.takeWhile_cons_of_pos (by simp [hcommitted]),
      List.filterMap_cons_none h]
    rfl
  rw [told?, told?, List.findSome?_cons_of_isNone (by simp [hcommitted]), hsince]

theorem allowance_cons_of_limit {limit : Option Nat} (h : deed.limit? = some limit) :
    allowance (deed :: past) = limit := by
  rw [allowance, List.findSome?_cons_of_isSome (by simp [h]), h]
  rfl

theorem allowance_cons (h : deed.limit? = none) : allowance (deed :: past) = allowance past := by
  rw [allowance, List.findSome?_cons_of_isNone (by simp [h])]
  rfl

variable {records capacity : Nat}

theorem attempts_cons_of_limit {limit : Option Nat} (h : deed.limit? = some limit) :
    attempts records capacity (deed :: past) = 0 := by
  rw [attempts, List.takeWhile_cons_of_neg (by simp [h])]
  rfl

theorem attempts_cons (h : deed.limit? = none) :
    attempts records capacity (deed :: past) =
      attempts records capacity past + if deed.isInRange records capacity then 1 else 0 := by
  rw [attempts, List.takeWhile_cons_of_pos (by simp [h]), List.countP_cons]
  rfl

end Cons

end RamDeed

/-! ## Sessions -/

/-- A session with a medium in working memory, with the latest of its deeds first. -/
structure RamSession (records capacity : Nat) where
  medium : RamMedium records capacity := .empty
  past : List RamDeed := []

namespace RamSession

variable {records capacity : Nat}

def step (session : RamSession records capacity) (order : RamOrder) :
    RamSession records capacity where
  medium := (session.medium.execute order).2
  past := ⟨order, (session.medium.execute order).1⟩ :: session.past

/-- The session after some orders to an empty medium. -/
def after (orders : List RamOrder) : RamSession records capacity :=
  orders.foldl step {}

/-- What the medium holds is what its past tells. -/
structure Told (session : RamSession records capacity) : Prop where
  image : ∀ id, session.medium.image? id = RamDeed.told? id session.past
  budget : session.medium.budget =
    (RamDeed.allowance session.past).map (· - RamDeed.attempts records capacity session.past)
  commits : session.medium.commits = session.past.countP RamDeed.isCommitted

variable {session : RamSession records capacity}

/-- One case an order: only a commit that takes effect and damage touch an image, and only that of
their record. -/
theorem Told.image_step (h : session.Told) (order : RamOrder) (id : RecordId) :
    (session.step order).medium.image? id = RamDeed.told? id (session.step order).past := by
  have untouched : session.medium.image? id = RamDeed.told? id session.past := h.image id
  cases order with
  | load other room => exact untouched.trans (RamDeed.told?_cons_of_neither _ rfl rfl).symm
  | commit other image =>
    rw [step, RamMedium.image?_execute_commit]
    cases (session.medium.execute (.commit other image)).1 with
    | error refusal => exact untouched.trans (RamDeed.told?_cons_of_neither _ rfl rfl).symm
    | ok found =>
      dsimp only
      by_cases hsame : id = other
      · have hcommitted : RamDeed.committed? id ⟨.commit other image, .ok found⟩ = some image :=
          if_pos hsame.symm
        rw [if_pos hsame]
        exact (RamDeed.told?_cons_of_committed _ hcommitted).symm
      · have helsewhere : RamDeed.committed? id ⟨.commit other image, .ok found⟩ = none :=
          if_neg (Ne.symm hsame)
        rw [if_neg hsame]
        exact untouched.trans (RamDeed.told?_cons_of_neither _ helsewhere rfl).symm
  | damage other offset =>
    show (session.medium.damage other offset).image? id = _
    rw [RamMedium.image?_damage, untouched]
    by_cases hsame : id = other
    · have hdamaged (reply) : RamDeed.damaged? id ⟨.damage other offset, reply⟩ = some offset :=
        if_pos hsame.symm
      rw [if_pos hsame]
      exact (RamDeed.told?_cons_of_damaged _ rfl (hdamaged _)).symm
    · have helsewhere (reply) : RamDeed.damaged? id ⟨.damage other offset, reply⟩ = none :=
        if_neg (Ne.symm hsame)
      rw [if_neg hsame]
      exact (RamDeed.told?_cons_of_neither _ rfl (helsewhere _)).symm
  | limit count => exact untouched.trans (RamDeed.told?_cons_of_neither _ rfl rfl).symm
  | lift => exact untouched.trans (RamDeed.told?_cons_of_neither _ rfl rfl).symm

/-- A commit in range is one more that was tried, whether it took effect or not. -/
theorem Told.budget_step (h : session.Told) (order : RamOrder) :
    (session.step order).medium.budget =
      (RamDeed.allowance (session.step order).past).map
        (· - RamDeed.attempts records capacity (session.step order).past) := by
  cases order with
  | load id room =>
    rw [step, RamDeed.allowance_cons _ rfl, RamDeed.attempts_cons _ rfl]
    exact h.budget
  | commit id image =>
    rw [step, RamDeed.allowance_cons _ rfl, RamDeed.attempts_cons _ rfl,
      RamMedium.budget_execute_commit, h.budget]
    cases RamDeed.allowance session.past with
    | none => simp
    | some count =>
      have hinrange : ∀ reply, RamDeed.isInRange records capacity ⟨.commit id image, reply⟩ =
          (id.index < records && image.length ≤ capacity) := fun _ => rfl
      rw [hinrange]
      split
      · exact congrArg some (Nat.sub_sub _ _ _)
      · rfl
  | damage id offset =>
    rw [step, RamDeed.allowance_cons _ rfl, RamDeed.attempts_cons _ rfl]
    exact (RamMedium.budget_damage _ _ _).trans h.budget
  | limit count =>
    rw [step, RamDeed.allowance_cons_of_limit _ rfl, RamDeed.attempts_cons_of_limit _ rfl]
    rfl
  | lift =>
    rw [step, RamDeed.allowance_cons_of_limit _ rfl]
    rfl

theorem Told.commits_step (h : session.Told) (order : RamOrder) :
    (session.step order).medium.commits = (session.step order).past.countP RamDeed.isCommitted := by
  cases order with
  | commit id image =>
    cases hcommit : session.medium.commit id image with
    | error refusal =>
      simp only [step, RamMedium.execute, hcommit]
      rw [List.countP_cons_of_neg (by simp [RamDeed.isCommitted])]
      exact h.commits
    | ok after =>
      obtain ⟨-, -, -, hcommits, -⟩ := RamMedium.commit_eq_ok hcommit
      simp only [step, RamMedium.execute, hcommit]
      rw [List.countP_cons_of_pos rfl, hcommits, h.commits]
  | damage id offset => exact (RamMedium.commits_damage _ _ _).trans h.commits
  | load | limit | lift => exact h.commits

theorem Told.step (h : session.Told) (order : RamOrder) : (session.step order).Told :=
  ⟨h.image_step order, h.budget_step order, h.commits_step order⟩

theorem told_after (orders : List RamOrder) :
    (after orders : RamSession records capacity).Told := by
  unfold after
  refine List.foldlRecOn orders RamSession.step ⟨fun id => ?_, rfl, rfl⟩
    fun _ h order _ => h.step order
  exact RamMedium.image?_empty id

/-! ## The medium as a map -/

/-- What shows of a medium at the end of a session is decided by the deeds of the session. -/
structure Decided (session : RamSession records capacity) : Prop where
  /-- A load gives the image that the past tells, if the room is enough for it. -/
  load : ∀ (id : RecordId) (room : Nat), session.medium.load id room =
    if id.index < records then
      match RamDeed.told? id session.past with
      | none => .ok none
      | some image => if room < image.length then .error .tooLarge else .ok (some image)
    else
      .error .unknownRecord
  /-- A commit takes effect if it is in range and not beyond the last of those that were allowed:
  commits out of range do not count. -/
  commit : ∀ (id : RecordId) (image : Bytes), (session.medium.execute (.commit id image)).1 =
    if records ≤ id.index then .error .unknownRecord
    else if capacity < image.length then .error .tooLarge
    else
      match RamDeed.allowance session.past with
      | none => .ok none
      | some count =>
        if RamDeed.attempts records capacity session.past < count then .ok none
        else .error .notCommitted
  /-- What is refused has no effect. -/
  refused : ∀ (order : RamOrder) (error : MediumError),
    (session.medium.execute order).1 = .error error →
      (session.medium.execute order).2 = session.medium
  commits : session.medium.commits = session.past.countP RamDeed.isCommitted
  /-- Damage outside the image never shows, whatever is ordered next. -/
  unseen : ∀ (id : RecordId) (offset : Nat),
    (∀ image, RamDeed.told? id session.past = some image → image.length ≤ offset) →
      ∀ orders, (session.medium.damage id offset).replies orders = session.medium.replies orders

theorem Told.load (h : session.Told) (id : RecordId) (room : Nat) :
    session.medium.load id room =
      if id.index < records then
        match RamDeed.told? id session.past with
        | none => .ok none
        | some image => if room < image.length then .error .tooLarge else .ok (some image)
      else
        .error .unknownRecord := by
  have hload := session.medium.load_eq id room
  rw [h.image] at hload
  exact hload

/-- The budget is what is left of the commits that were allowed. -/
theorem Told.reply_commit (h : session.Told) (id : RecordId) (image : Bytes) :
    (session.medium.execute (.commit id image)).1 =
      if records ≤ id.index then .error .unknownRecord
      else if capacity < image.length then .error .tooLarge
      else
        match RamDeed.allowance session.past with
        | none => .ok none
        | some count =>
          if RamDeed.attempts records capacity session.past < count then .ok none
          else .error .notCommitted := by
  rw [RamMedium.reply_commit, h.budget]
  cases RamDeed.allowance session.past with
  | none => rfl
  | some count =>
    have hspent : (some count).map (· - RamDeed.attempts records capacity session.past) = some 0 ↔
        ¬ RamDeed.attempts records capacity session.past < count := by
      rw [Option.map_some, Option.some_inj, Nat.sub_eq_zero_iff_le, Nat.not_lt]
    simp only [hspent, ite_not]

/-- Damage outside the image is found in no image. -/
theorem Told.indistinguishable_damage (h : session.Told) {id : RecordId} {offset : Nat}
    (outside : ∀ image, RamDeed.told? id session.past = some image → image.length ≤ offset) :
    (session.medium.damage id offset).Indistinguishable session.medium := by
  refine ⟨fun other => ?_, RamMedium.budget_damage _ _ _⟩
  rw [RamMedium.image?_damage]
  by_cases hsame : other = id
  · rw [if_pos hsame, hsame, h.image]
    cases himage : RamDeed.told? id session.past with
    | none => rfl
    | some image => exact congrArg some (List.modify_eq_self (outside image himage))
  · rw [if_neg hsame]

/-- However a medium in working memory was used, what it does next is decided by what was done to
it. -/
theorem history_decides (orders : List RamOrder) :
    (after orders : RamSession records capacity).Decided := by
  have told : (after orders : RamSession records capacity).Told := told_after orders
  generalize (after orders : RamSession records capacity) = session at told
  exact
    { load := told.load
      commit := told.reply_commit
      refused := fun _ _ => RamMedium.execute_refused
      commits := told.commits
      unseen := fun id offset outside => (told.indistinguishable_damage outside).replies }

/-- A shorter image hides the tail of a longer one, and damage to that tail. -/
example : (after [.commit ⟨0⟩ [1, 2, 3], .commit ⟨0⟩ [4], .damage ⟨0⟩ 2, .damage ⟨0⟩ 0] :
    RamSession 1 4).medium.load ⟨0⟩ 4 = .ok (some [0xFB]) := by
  rfl

end RamSession

end SecureElement
