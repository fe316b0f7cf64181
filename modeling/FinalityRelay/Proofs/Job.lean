import FinalityRelay.Evidence.Submission
import Mathlib

/-! Jobs of both kinds as one type, what never changes in a job, and what it is when it is submitted. -/

namespace FinalityRelay

inductive Evidence
  | schedule (e : ScheduleEvidence)
  | deposit (e : DepositEvidence)
deriving DecidableEq

namespace Evidence

def kind : Evidence → ProofKind
  | .schedule _ => .schedule
  | .deposit _ => .deposit

/-- All but the path, which is computed anew before each submission. -/
def withoutPath : Evidence → Evidence
  | .schedule e => .schedule e
  | .deposit e => .deposit { e with path := [] }

/-- The evidence as it is submitted; `none` if the receipt is not among the siblings. -/
def refreshed? : Evidence → Option Evidence
  | .schedule e => some (.schedule e)
  | .deposit e => e.refreshPath.toOption.map .deposit

theorem withoutPath_of_refreshed? {e e' : Evidence} (h : e.refreshed? = some e') :
    e'.withoutPath = e.withoutPath := by
  cases e with
  | schedule e => simp_all [refreshed?]
  | deposit e =>
    simp only [refreshed?, DepositEvidence.refreshPath] at h
    cases hp : Merkle.inclusionPath (e.siblings.idxOf e.receipt.digest) e.siblings with
    | error err => simp [hp, Except.toOption, Except.map] at h
    | ok path =>
      simp only [hp, Except.toOption, Except.map, Option.map_some, Option.some.injEq] at h
      subst h
      rfl

theorem kind_of_refreshed? {e e' : Evidence} (h : e.refreshed? = some e') : e'.kind = e.kind := by
  cases e with
  | schedule e => simp_all [refreshed?]
  | deposit e =>
    obtain ⟨d, -, rfl⟩ := Option.map_eq_some_iff.mp h
    rfl

/-- A receipt can be proven if and only if it is among those of its block. -/
theorem refreshed?_eq_none_iff {e : Evidence} :
    e.refreshed? = none ↔ ∃ d, e = .deposit d ∧ d.receipt.digest ∉ d.siblings := by
  cases e with
  | schedule e => simp [refreshed?]
  | deposit e =>
    have hi : e.siblings.idxOf e.receipt.digest < e.siblings.length ↔
        e.receipt.digest ∈ e.siblings := List.idxOf_lt_length_iff
    simp only [refreshed?, DepositEvidence.refreshPath, Merkle.inclusionPath, hi]
    by_cases hm : e.receipt.digest ∈ e.siblings
    · simp [hm, Except.map, Except.toOption]
    · simp [hm, Except.map, Except.toOption]

end Evidence

namespace Job

variable {ε δ : Type} (j : Job ε) (r : BlockRecord)

def map (f : ε → δ) (j : Job ε) : Job δ :=
  ⟨j.subject, j.subjectId, j.status, j.anchor, j.window, f j.evidence⟩

@[simp] theorem status_map (f : ε → δ) : (j.map f).status = j.status := rfl

def grown : Window := (j.window.push r.number r.id r.header).1

theorem collect_fst : (j.collect r).1 =
    if j.status = .collecting then
      { j with
        window := j.grown r
        status :=
          if (j.grown r).isComplete ∨ (j.grown r).isExhausted r.number then .ready else .collecting }
    else j := by
  unfold collect grown
  by_cases hs : j.status = .collecting
  · rw [if_pos hs, if_pos hs]
    by_cases hc : (j.window.push r.number r.id r.header).1.isComplete = true
    · simp [hc]
    · by_cases he : (j.window.push r.number r.id r.header).1.isExhausted r.number = true
      · simp [hc, he]
      · simp [hc, he, hs]
  · rw [if_neg hs, if_neg hs]

theorem collect_map (f : ε → δ) : ((j.map f).collect r).1 = (j.collect r).1.map f := by
  rw [collect_fst, collect_fst, status_map]
  split <;> rfl

theorem collect_of_ne {j : Job ε} (h : j.status ≠ .collecting) : (j.collect r).1 = j := by
  rw [collect_fst, if_neg h]

@[simp] theorem subject_collect : (j.collect r).1.subject = j.subject := by
  rw [collect_fst]
  split <;> rfl

@[simp] theorem subjectId_collect : (j.collect r).1.subjectId = j.subjectId := by
  rw [collect_fst]
  split <;> rfl

@[simp] theorem anchor_collect : (j.collect r).1.anchor = j.anchor := by
  rw [collect_fst]
  split <;> rfl

@[simp] theorem evidence_collect : (j.collect r).1.evidence = j.evidence := by
  rw [collect_fst]
  split <;> rfl

theorem status_collect {j : Job ε} (h : j.status = .collecting) :
    (j.collect r).1.status = .collecting ∨ (j.collect r).1.status = .ready := by
  rw [collect_fst, if_pos h]
  by_cases hc : (j.grown r).isComplete ∨ (j.grown r).isExhausted r.number <;> simp [hc]

theorem status_collect_sent : (j.collect r).1.status = .sent ↔ j.status = .sent := by
  by_cases h : j.status = .collecting
  · rcases status_collect r h with hs | hs <;> simp [h, hs]
  · simp [collect_of_ne r h]

/-- The job after an acceptance; only a ready one changes. -/
def accepted (j : Job ε) : Job ε := if j.status = .ready then { j with status := .sent } else j

theorem accepted_map (f : ε → δ) : (j.map f).accepted = j.accepted.map f := by
  by_cases h : j.status = .ready
  · rw [accepted, accepted, status_map, if_pos h, if_pos h]
    rfl
  · rw [accepted, accepted, status_map, if_neg h, if_neg h]

end Job

structure Dossier where
  subject : UInt32
  subjectId : Digest
  anchor : Accumulator
  evidence : Evidence
deriving DecidableEq

namespace Job

/-- The part of a job that never changes: all but its progress and the path. -/
def dossier (j : Job Evidence) : Dossier :=
  ⟨j.subject, j.subjectId, j.anchor, j.evidence.withoutPath⟩

theorem dossier_collect (j : Job Evidence) (r : BlockRecord) :
    (j.collect r).1.dossier = j.dossier := by
  simp [dossier]

theorem dossier_accepted (j : Job Evidence) : j.accepted.dossier = j.dossier := by
  simp only [accepted]
  split <;> rfl

/-- The job as it is submitted; `none` if its receipt cannot be proven. -/
def prepared? (j : Job Evidence) : Option (Job Evidence) :=
  j.evidence.refreshed?.map fun evidence => { j with evidence }

theorem prepared?_eq_some_iff {j j' : Job Evidence} :
    j.prepared? = some j' ↔
      ∃ e, j.evidence.refreshed? = some e ∧ j' = { j with evidence := e } := by
  simp [prepared?, eq_comm]

theorem status_prepared {j j' : Job Evidence} (h : j.prepared? = some j') : j'.status = j.status := by
  obtain ⟨e, -, rfl⟩ := prepared?_eq_some_iff.mp h
  rfl

theorem dossier_prepared {j j' : Job Evidence} (h : j.prepared? = some j') :
    j'.dossier = j.dossier := by
  obtain ⟨e, he, rfl⟩ := prepared?_eq_some_iff.mp h
  simp only [dossier, Evidence.withoutPath_of_refreshed? he]

def submission (j : Job Evidence) : Submission :=
  match j.evidence with
  | .schedule e => .schedule (.ofJob (j.map fun _ => e))
  | .deposit e => .deposit (.ofJob (j.map fun _ => e))

end Job

def Submission.kind : Submission → ProofKind
  | .schedule _ => .schedule
  | .deposit _ => .deposit

def Submission.subject : Submission → UInt32
  | .schedule s => s.subject
  | .deposit s => s.subject

def Submission.headers : Submission → List SignedHeader
  | .schedule s => s.headers
  | .deposit s => s.headers

def Submission.gaps : Submission → List (List Digest)
  | .schedule s => s.gaps
  | .deposit s => s.gaps

theorem Job.headers_submission (j : Job Evidence) : j.submission.headers = j.window.headers := by
  cases h : j.evidence <;> simp [Job.submission, h, Submission.headers] <;> rfl

theorem Job.gaps_submission (j : Job Evidence) : j.submission.gaps = j.window.gaps := by
  cases h : j.evidence <;> simp [Job.submission, h, Submission.gaps] <;> rfl

theorem Job.subject_submission (j : Job Evidence) : j.submission.subject = j.subject := by
  cases h : j.evidence <;> simp [Job.submission, h, Submission.subject] <;> rfl

theorem Job.kind_submission (j : Job Evidence) : j.submission.kind = j.evidence.kind := by
  cases h : j.evidence <;> simp [Job.submission, h, Submission.kind, Evidence.kind]

def Answer.isAccepted : Answer → Bool
  | .accepted _ => true
  | .rejected _ | .failed _ => false

end FinalityRelay
