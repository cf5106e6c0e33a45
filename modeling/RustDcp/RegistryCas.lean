import RustDcp.RegistryView
import RustDcp.Machine

namespace RustDcp.Membership
set_option autoImplicit true

inductive RegistryAction where
  | register
  | heartbeat
  | monitor
  | remove
  deriving DecidableEq

def RegistryAction.apply (action : RegistryAction) (registry : RegistryDocument)
    (identity : MemberIdentity) (nowMillis : Nat) :
    MResult (RegistryDocument × Option MembershipSnapshot) :=
  match action with
  | .register => do
    let registry ← registry.pruneStale nowMillis
    let registry ← registry.register identity nowMillis
    let snapshot ← registry.snapshot identity
    return (registry, some snapshot)
  | .heartbeat => do
    let registry ← registry.heartbeat identity nowMillis
    let snapshot ← registry.snapshot identity
    return (registry, some snapshot)
  | .monitor => do
    let registry ← registry.heartbeat identity nowMillis
    let registry ← registry.pruneStale nowMillis
    let snapshot ← registry.snapshot identity
    return (registry, some snapshot)
  | .remove => do
    let registry ← registry.remove identity
    return (registry, none)

/-- The settings that every member must agree on. -/
structure Settings where
  vbucketCount : Nat
  staleAfterMillis : Nat

/-- The configuration of one member, without the group, which only names the document, and the
intervals, which only pace its actions. -/
structure MembershipConfig where
  identity : MemberIdentity
  maxCasAttempts : Nat

structure StoredRegistryDocument where
  value : RegistryDocument
  cas : Nat
  deriving DecidableEq

def openRegistry (settings : Settings) (action : RegistryAction) (identity : MemberIdentity)
    (stored : Option StoredRegistryDocument) : MResult RegistryDocument :=
  match stored with
  | some stored => do
    stored.value.validateSettings settings.vbucketCount settings.staleAfterMillis
    return stored.value
  | none =>
    match action with
    | .register => RegistryDocument.new settings.vbucketCount settings.staleAfterMillis
    | _ => .error (.fenced identity.memberId)

/-- Where one call of `mutate_registry` stands. -/
inductive Phase where
  | loading
  | loaded (stored : Option StoredRegistryDocument)
  | writing (registry : RegistryDocument) (cas : Option Nat) (snapshot : Option MembershipSnapshot)
  | finished (result : MResult (Option MembershipSnapshot))
  deriving DecidableEq

structure Attempt where
  config : MembershipConfig
  action : RegistryAction
  left : Nat
  phase : Phase

/-- The CAS document, the calls in progress and, as a ghost, every document that was stored. -/
structure CasSystem where
  stored : Option StoredRegistryDocument
  nextCas : Nat
  attempts : List Attempt
  history : List RegistryDocument

inductive CasAction where
  /-- A call of `mutate_registry` by some member. -/
  | begin (config : MembershipConfig) (action : RegistryAction)
  | load (i : Nat)
  /-- The computation between the load and the write; `nowMillis` is the member's own clock. -/
  | mutate (i nowMillis : Nat)
  | write (i : Nat)
  /-- The store or the timeout fails the call. A write in flight may have been applied. -/
  | fault (i : Nat) (error : CouchbaseMembershipError) (applied : Bool)

namespace Attempt

def finish (self : Attempt) (result : MResult (Option MembershipSnapshot)) : Attempt :=
  { self with phase := .finished result }

def view? (self : Attempt) : Option MembershipSnapshot :=
  match self.phase with
  | .finished (.ok view) => view
  | _ => none

theorem view?_eq_some {self : Attempt} (h : self.view? = some view) :
    self.phase = .finished (.ok (some view)) := by
  rw [view?] at h
  split at h
  · rename_i other hphase
    rw [hphase, h]
  · cases h

def mutate (settings : Settings) (self : Attempt) (stored : Option StoredRegistryDocument)
    (nowMillis : Nat) : Attempt :=
  match openRegistry settings self.action self.config.identity stored with
  | .error error => self.finish (.error error)
  | .ok before =>
    match self.action.apply before self.config.identity nowMillis with
    | .error error => self.finish (.error error)
    | .ok (registry, snapshot) =>
      if registry = before then self.finish (.ok snapshot)
      else { self with phase := .writing registry (stored.map (·.cas)) snapshot }

def conflict (self : Attempt) : Attempt :=
  if self.left ≤ 1 then
    self.finish (.error (.store
      s!"membership CAS conflicted for all {self.config.maxCasAttempts} attempts"))
  else { self with left := self.left - 1, phase := .loading }

end Attempt

namespace CasSystem

def start : CasSystem := { stored := none, nextCas := 1, attempts := [], history := [] }

/-- `create` needs an absent document, `replace` the revision with the token. -/
def accepts (self : CasSystem) (cas : Option Nat) : Bool :=
  decide (self.stored.map (·.cas) = cas)

def store (self : CasSystem) (registry : RegistryDocument) : CasSystem :=
  { self with
    stored := some { value := registry, cas := self.nextCas }
    nextCas := self.nextCas + 1
    history := self.history ++ [registry] }

def setAttempt (self : CasSystem) (i : Nat) (attempt : Attempt) : CasSystem :=
  { self with attempts := self.attempts.set i attempt }

def step (settings : Settings) (self : CasSystem) : CasAction → Option CasSystem
  | .begin config action => some { self with attempts := self.attempts ++
      [{ config, action, left := config.maxCasAttempts, phase := .loading }] }
  | .load i => do
    let attempt ← self.attempts[i]?
    match attempt.phase with
    | .loading => some (self.setAttempt i { attempt with phase := .loaded self.stored })
    | _ => none
  | .mutate i nowMillis => do
    let attempt ← self.attempts[i]?
    match attempt.phase with
    | .loaded stored => some (self.setAttempt i (attempt.mutate settings stored nowMillis))
    | _ => none
  | .write i => do
    let attempt ← self.attempts[i]?
    match attempt.phase with
    | .writing registry cas snapshot =>
      if self.accepts cas then
        some ((self.store registry).setAttempt i (attempt.finish (.ok snapshot)))
      else some (self.setAttempt i attempt.conflict)
    | _ => none
  | .fault i error applied => do
    let attempt ← self.attempts[i]?
    match attempt.phase with
    | .finished _ => none
    | .writing registry cas _ =>
      let failed := attempt.finish (.error error)
      if applied && self.accepts cas then some ((self.store registry).setAttempt i failed)
      else some (self.setAttempt i failed)
    | _ => some (self.setAttempt i (attempt.finish (.error error)))

end CasSystem

end RustDcp.Membership
