import RustDcp.FlushGate
import RustDcp.PartitionOrder

namespace RustDcp
set_option autoImplicit true

/-- What `open_generation` hands back, as far as the coordinator is concerned. -/
structure OpenedGeneration where
  effectiveCheckpoints : BTreeMap UInt16 DcpCheckpoint
  endSeqnos : BTreeMap UInt16 Nat
  streamCount : Nat
  deriving DecidableEq

def debugSet (elements : List UInt16) : String :=
  "\x7b" ++ ", ".intercalate (elements.map toString) ++ "\x7d"

def debugMap (elements : List (UInt16 × Nat)) : String :=
  "\x7b" ++ ", ".intercalate (elements.map fun entry => s!"{entry.1}: {entry.2}") ++ "\x7d"

def streamEndBehind (endSeqnos : BTreeMap UInt16 Nat) : List (UInt16 × DcpCheckpoint) → Result Unit
  | [] => .ok ()
  | (vbucket, checkpoint) :: rest =>
    let endSeqno := endSeqnos.getD vbucket 0
    if endSeqno < checkpoint.seqno then
      .error (.stream vbucket
        s!"stream end {endSeqno} is behind effective start {checkpoint.seqno}")
    else streamEndBehind endSeqnos rest

def validateOpenedPartitions (starts : BTreeMap UInt16 StartPosition)
    (effective : BTreeMap UInt16 DcpCheckpoint) (endSeqnos : BTreeMap UInt16 Nat)
    (frozenEndSeqnos : Option (BTreeMap UInt16 Nat)) (streamCount : Nat) : Result Unit :=
  let requested := starts.keys
  let opened := effective.keys
  let ends := endSeqnos.keys
  if requested ≠ opened then
    .error (.topology
      s!"opened vBuckets {debugSet opened} do not match requested vBuckets {debugSet requested}")
  else if requested ≠ ends then
    .error (.topology
      (s!"opened end-seqno vBuckets {debugSet ends} do not match requested vBuckets " ++
       s!"{debugSet requested}"))
  else
    let frozen := frozenEndSeqnos.getD endSeqnos
    if frozen ≠ endSeqnos then
      .error (.stream 0
        (s!"reopened finite endpoints {debugMap endSeqnos.toList} do not match frozen endpoints " ++
         s!"{debugMap frozen.toList}"))
    else match streamEndBehind endSeqnos effective.toList with
      | .error error => .error error
      | .ok () =>
        if streamCount = 0 then
          .error (.topology "a DCP generation opened no node connections")
        else .ok ()

def reopenStarts (captured : BTreeMap UInt16 DcpCheckpoint) : BTreeMap UInt16 StartPosition :=
  captured.map fun _ checkpoint => .checkpoint checkpoint

def System.acceptReopenedGeneration (self : System) (captured : BTreeMap UInt16 DcpCheckpoint)
    (frozenEndSeqnos : BTreeMap UInt16 Nat) (opened : OpenedGeneration) : Result Unit × System :=
  match validateOpenedPartitions (reopenStarts captured) opened.effectiveCheckpoints
    opened.endSeqnos (some frozenEndSeqnos) opened.streamCount with
  | .error error => (.error error, self)
  | .ok () =>
    match self.state.rebasePartitions self.bucketUuid opened.effectiveCheckpoints with
    | (.error error, state) => (.error error, { self with state })
    | (.ok (), state) =>
      (.ok (), { self with
        state
        journal := self.journal ++ [.rebased opened.effectiveCheckpoints] })

inductive ReopenPhase where
  | driving
  | retrying
  | opening (captured : BTreeMap UInt16 DcpCheckpoint)
  | ended
  deriving DecidableEq

structure Reopening where
  system : System
  frozenEndSeqnos : BTreeMap UInt16 Nat
  phase : ReopenPhase
  deriving DecidableEq

inductive ReopenAction where
  | track (event : DcpEvent)
  | acknowledge (token : EventAck)
  | flush (action : FlushAction)
  | leave
  | capture
  | retry
  | accept (opened : OpenedGeneration)
  | stop
  deriving DecidableEq

namespace Reopening

def step (self : Reopening) : ReopenAction → Option Reopening
  | .track event =>
    match self.phase with
    | .driving => (self.system.step (.track event)).map fun system => { self with system }
    | _ => none
  | .acknowledge token =>
    (self.system.step (.acknowledge token)).map fun system => { self with system }
  | .flush action => (self.system.step (.flush action)).map fun system => { self with system }
  | .leave =>
    match self.phase with
    | .driving => some { self with phase := .retrying }
    | _ => none
  | .capture =>
    match self.phase with
    | .retrying => some { self with phase := .opening self.system.state.processedCheckpoints }
    | _ => none
  | .retry =>
    match self.phase with
    | .opening _ => some { self with phase := .retrying }
    | _ => none
  | .accept opened =>
    match self.phase with
    | .opening captured =>
      match self.system.acceptReopenedGeneration captured self.frozenEndSeqnos opened with
      | (.error _, system) => some { self with system, phase := .ended }
      | (.ok (), system) => some { self with system, phase := .driving }
    | _ => none
  | .stop =>
    match self.phase with
    | .driving | .retrying | .opening _ => some { self with phase := .ended }
    | .ended => none

end Reopening

end RustDcp
