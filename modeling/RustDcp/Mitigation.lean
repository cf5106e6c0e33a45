import RustDcp.Coordinator
import RustDcp.Topology

namespace RustDcp
set_option autoImplicit true

def debugDecimal (integer fraction width : Nat) : String :=
  let digits := Nat.toDigits 10 fraction
  let padded := List.replicate (width - digits.length) '0' ++ digits
  let kept := (padded.reverse.dropWhile (· == '0')).reverse
  if kept.isEmpty then s!"{integer}" else s!"{integer}.{String.ofList kept}"

def debugDuration (duration : Duration) : String :=
  if duration ≥ 10 ^ 9 then debugDecimal (duration / 10 ^ 9) (duration % 10 ^ 9) 9 ++ "s"
  else if duration ≥ 10 ^ 6 then debugDecimal (duration / 10 ^ 6) (duration % 10 ^ 6) 6 ++ "ms"
  else if duration ≥ 1000 then debugDecimal (duration / 1000) (duration % 1000) 3 ++ "µs"
  else s!"{duration}ns"

namespace Mitigation

inductive ObservationOutcome where
  | persisted (vbucketUuid persistedSeqno : Nat)
  | transient (message : String)
  | branchChanged (observedVbucketUuid : Nat)
  deriving DecidableEq

abbrev ObservationBatch := BTreeMap UInt16 ObservationOutcome

structure PartitionState where
  expectedVbucketUuid : Nat
  persistedSeqno : Option Nat
  lastError : Option String
  deriving DecidableEq

/-- The body of the loop of `MitigationSnapshot::apply`; `none` is an omitted vBucket. -/
def PartitionState.apply (self : PartitionState) : Option ObservationOutcome → PartitionState
  | none => { self with lastError := some "observation cycle omitted the vBucket" }
  | some (.persisted vbucketUuid persistedSeqno) =>
    if vbucketUuid ≠ self.expectedVbucketUuid then
      { self with
        persistedSeqno := none
        lastError :=
          some s!"expected history branch {self.expectedVbucketUuid}, observed {vbucketUuid}" }
    else match self.persistedSeqno.filter fun previous => persistedSeqno < previous with
      | some previous =>
        { self with
          persistedSeqno := none
          lastError :=
            some s!"persisted sequence number regressed from {previous} to {persistedSeqno}" }
      | none => { self with persistedSeqno := some persistedSeqno, lastError := none }
  | some (.transient message) => { self with lastError := some message }
  | some (.branchChanged observedVbucketUuid) =>
    { self with
      persistedSeqno := none
      lastError := some
        s!"expected history branch {self.expectedVbucketUuid}, observed {observedVbucketUuid}" }

structure MitigationSnapshot where
  partitions : BTreeMap UInt16 PartitionState
  deriving DecidableEq

namespace MitigationSnapshot

def new (branches : BTreeMap UInt16 Nat) : Result MitigationSnapshot :=
  if branches.isEmpty then
    .error (.invalidConfiguration "rollback mitigation requires at least one vBucket")
  else .ok
    { partitions := branches.map fun _ expectedVbucketUuid =>
        { expectedVbucketUuid, persistedSeqno := none, lastError := none } }

def apply (self : MitigationSnapshot) (batch : ObservationBatch) : MitigationSnapshot :=
  { partitions := self.partitions.map fun vbucket state => state.apply batch[vbucket]? }

end MitigationSnapshot

/-- Where one call of `wait_until_safe` stands. -/
inductive WaitCall where
  | waiting (vbucket : UInt16) (seqno : Nat) (delayed : Bool)
  | returned (vbucket : UInt16) (seqno : Nat) (result : Result Bool)
  deriving DecidableEq

/-- The observer task and the calls that wait for it; `applied` is the history of its batches. -/
structure Mitigator where
  maximumStall : Duration
  snapshot : MitigationSnapshot
  observing : Bool
  calls : List WaitCall
  applied : List ObservationBatch
  deriving DecidableEq

/-- `observe` is a cycle of the observer, `stop` its end; `poll` is one round of a waiting call,
with what its clock says of the deadline, and `wake` the round in which it sees that the observer is
gone. -/
inductive MitigatorAction where
  | observe (batch : ObservationBatch)
  | stop
  | call (vbucket : UInt16) (seqno : Nat)
  | poll (i : Nat) (expired : Bool)
  | wake (i : Nat)
  deriving DecidableEq

namespace Mitigator

def start (maximumStall : Duration) (snapshot : MitigationSnapshot) : Mitigator :=
  { maximumStall, snapshot, observing := true, calls := [], applied := [] }

/-- One round of the loop of `wait_until_safe`, up to the next time that it waits. -/
def waitRound (self : Mitigator) (vbucket : UInt16) (seqno : Nat) (delayed expired : Bool) :
    WaitCall :=
  match self.snapshot.partitions[vbucket]? with
  | none => .returned vbucket seqno (.error (.rollbackMitigation vbucket
      "vBucket is absent from the mitigation generation"))
  | some state =>
    if state.persistedSeqno.any fun persisted => persisted ≥ seqno then
      .returned vbucket seqno (.ok delayed)
    else if expired then
      let context := state.lastError.getD s!"persisted sequence number did not reach {seqno}"
      .returned vbucket seqno (.error (.rollbackMitigation vbucket
        (s!"delivery did not become persistence-safe within {debugDuration self.maximumStall}: " ++
         s!"{context}")))
    else .waiting vbucket seqno true

def step (self : Mitigator) : MitigatorAction → Option Mitigator
  | .observe batch =>
    if self.observing then
      some { self with snapshot := self.snapshot.apply batch, applied := self.applied ++ [batch] }
    else none
  | .stop => some { self with observing := false }
  | .call vbucket seqno =>
    some { self with calls := self.calls ++
      [if seqno = 0 then .returned vbucket seqno (.ok false) else .waiting vbucket seqno false] }
  | .poll i expired =>
    match self.calls[i]? with
    | some (.waiting vbucket seqno delayed) =>
      some { self with calls := self.calls.set i (self.waitRound vbucket seqno delayed expired) }
    | _ => none
  | .wake i =>
    match self.calls[i]? with
    | some (.waiting vbucket seqno true) =>
      if self.observing then none
      else some { self with
        calls := self.calls.set i (.returned vbucket seqno (.error .cancelled)) }
    | _ => none

end Mitigator

end Mitigation

end RustDcp
