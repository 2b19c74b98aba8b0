import SecureElement.Audit.Entry
import SecureElement.Audit.Log
import SecureElement.Audit.Message
import SecureElement.Audit.Ring
import SecureElement.Audit.Severity
import SecureElement.Backoff.Schedule
import SecureElement.Boot.Command
import SecureElement.Boot.Event
import SecureElement.Boot.Measured
import SecureElement.Boot.Scratchpad
import SecureElement.Boot.State
import SecureElement.Bytes.Basic
import SecureElement.Bytes.Endian
import SecureElement.Caller
import SecureElement.Crypto.CarrierKey
import SecureElement.Crypto.Fault
import SecureElement.Crypto.Rsa
import SecureElement.Crypto.Sha256
import SecureElement.Crypto.SignatureCheck
import SecureElement.Lifecycle
import SecureElement.Lock.Basic
import SecureElement.Lock.Command
import SecureElement.Lock.Controller
import SecureElement.Lock.Event
import SecureElement.Lock.Request
import SecureElement.Lock.State
import SecureElement.Medium.Basic
import SecureElement.Medium.Error
import SecureElement.Medium.Ram
import SecureElement.Nonce
import SecureElement.Proofs.Lock.Consistent
import SecureElement.Proofs.Lock.Nonces
import SecureElement.Proofs.Lock.Session
import SecureElement.Proofs.Lock.Transition
import SecureElement.Proofs.Medium.Lawful
import SecureElement.Proofs.Record.Payload
import SecureElement.Proofs.Record.Recovery
import SecureElement.Proofs.Release.Authority
import SecureElement.Proofs.Session
import SecureElement.Proofs.Slot.Access
import SecureElement.Proofs.Slot.Secrecy
import SecureElement.Proofs.Slot.Unrecorded
import SecureElement.Proofs.Time.Deadline
import SecureElement.Proofs.Vault.Access
import SecureElement.Proofs.Vault.Deposit
import SecureElement.Proofs.Vault.Outcome
import SecureElement.Proofs.Vault.Recovery
import SecureElement.Proofs.Vault.Secrecy
import SecureElement.Proofs.Vault.SideBySide
import SecureElement.Proofs.Vault.Synced
import SecureElement.Proofs.Vault.Throttling
import SecureElement.Record.Cell
import SecureElement.Record.Checksum
import SecureElement.Record.Draft
import SecureElement.Record.Format
import SecureElement.Refusal
import SecureElement.Release.Authority
import SecureElement.Release.Token
import SecureElement.Settings
import SecureElement.Slot.Access
import SecureElement.Slot.Basic
import SecureElement.Slot.Index
import SecureElement.Text.Numeral
import SecureElement.Time.Basic
import SecureElement.Time.Clock
import SecureElement.Vault.Basic
import SecureElement.Vault.Command
import SecureElement.Vault.Event
import SecureElement.Proofs.Record.Keeper
import SecureElement.Proofs.Boot.Measurements
import SecureElement.Proofs.Boot.Recovery
import SecureElement.Proofs.Lock.Released
import SecureElement.Proofs.Record.Burst
import SecureElement.Proofs.Boot.Commitment
import SecureElement.Proofs.Backoff.Schedule
import SecureElement.Proofs.Vault.Lockout
import SecureElement.Proofs.Vault.Isolation
import SecureElement.Proofs.Sharing
import SecureElement.Proofs.Boot.Scratchpad
import SecureElement.Proofs.Record.RoundTrip
import SecureElement.Proofs.Medium.History
import SecureElement.Proofs.Audit.Ring
import SecureElement.Proofs.Audit.Message
import SecureElement.Proofs.Audit.Journal
import SecureElement.Proofs.Lock.AuditTrail
import SecureElement.Proofs.Backoff.Bands
import SecureElement.Proofs.Release.Verdict
import SecureElement.Proofs.Lock.SelfTest
import SecureElement.Proofs.Slot.Plan
import SecureElement.Proofs.Vault.Erasure
import SecureElement.Proofs.Vault.Opening
import SecureElement.Proofs.Crypto.Rsa
import SecureElement.Proofs.Release.Transplant
import SecureElement.Proofs.Audit.History
import SecureElement.Proofs.Record.Serial
import SecureElement.Proofs.Audit.Cut
