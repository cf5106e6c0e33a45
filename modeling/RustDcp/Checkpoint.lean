import RustDcp.Error

namespace RustDcp
set_option autoImplicit true

/-- Durable resume position for one vBucket. -/
structure DcpCheckpoint where
  bucketUuid : Option String
  vbucket : UInt16
  vbucketUuid : Nat
  seqno : Nat
  snapshotStart : Nat
  snapshotEnd : Nat
  manifestUid : Option Nat
  deriving DecidableEq, Repr

def DcpCheckpoint.earliest (vbucket : UInt16) : DcpCheckpoint :=
  { bucketUuid := none
    vbucket
    vbucketUuid := 0
    seqno := 0
    snapshotStart := 0
    snapshotEnd := 0
    manifestUid := none }

def DcpCheckpoint.validate (self : DcpCheckpoint) : Result Unit :=
  if self.snapshotStart > self.snapshotEnd then
    .error (.checkpoint
      (s!"snapshot start {self.snapshotStart} exceeds snapshot end {self.snapshotEnd} for " ++
       s!"vBucket {self.vbucket}"))
  else if self.seqno > self.snapshotEnd then
    .error (.checkpoint
      s!"seqno {self.seqno} exceeds snapshot end {self.snapshotEnd} for vBucket {self.vbucket}")
  else if self.seqno ≠ 0 ∧ self.seqno < self.snapshotStart then
    .error (.checkpoint
      (s!"seqno {self.seqno} precedes snapshot start {self.snapshotStart} for vBucket " ++
       s!"{self.vbucket}"))
  else .ok ()

theorem DcpCheckpoint.validate_eq_ok {self : DcpCheckpoint} :
    self.validate = .ok () ↔ self.snapshotStart ≤ self.snapshotEnd ∧
      self.seqno ≤ self.snapshotEnd ∧ (self.seqno = 0 ∨ self.snapshotStart ≤ self.seqno) := by
  simp only [validate]
  split
  · simp only [reduceCtorEq, false_iff]
    omega
  · split
    · simp only [reduceCtorEq, false_iff]
      omega
    · split
      · simp only [reduceCtorEq, false_iff]
        omega
      · simp only [true_iff]
        omega

@[simp] theorem DcpCheckpoint.validate_earliest (vbucket : UInt16) :
    (earliest vbucket).validate = .ok () := by
  simp [validate_eq_ok, earliest]

inductive StartPosition where
  | earliest
  | latest
  | checkpoint (checkpoint : DcpCheckpoint)
  deriving DecidableEq, Repr

end RustDcp
