import FinalityRelay.Service.Basic

/-! The start of a service and its snapshot file. A start that fails leaves the file as it is, wherever it
fails. A start that succeeds uses the file up, and the relay holds what was in it. -/

namespace FinalityRelay

namespace SnapshotFile

variable {f : SnapshotFile} {purge : Bool}

/-- Why a file is not loaded. -/
inductive Fails (f : SnapshotFile) (purge : Bool) : SnapshotError → Prop
  | unpurged (hp : purge = true) (hd : f.deletable = false) : Fails f purge .io
  | unread (hp : purge = false) (hr : f.readable = false) : Fails f purge .io
  | undecoded (hp : purge = false) (hr : f.readable = true) {bs : List UInt8} {e : SnapshotError}
    (hc : f.content = some bs) (hs : Snapshot.decode bs = .error e) : Fails f purge e
  | undeleted (hp : purge = false) (hr : f.readable = true) {bs : List UInt8} {p : Snapshot}
    (hc : f.content = some bs) (hs : Snapshot.decode bs = .ok p) (hd : f.deletable = false) :
    Fails f purge .io

/-- What a file is loaded as. -/
inductive Gives (f : SnapshotFile) (purge : Bool) : Option Snapshot → Prop
  | nothing (h : purge = true ∨ f.content = none) : Gives f purge none
  | snapshot (hp : purge = false) {bs : List UInt8} {p : Snapshot} (hc : f.content = some bs)
    (hs : Snapshot.decode bs = .ok p) : Gives f purge (some p)

theorem delete_eq_ok (h : f.deletable = true) : f.delete = .ok { f with content := none } := if_pos h

theorem delete_eq_error (h : f.deletable = false) : f.delete = .error .io := if_neg (by simp [h])

theorem Fails.load {e : SnapshotError} (h : f.Fails purge e) : f.load purge = ⟨.error e, f, []⟩ := by
  cases h with
  | unpurged hp hd => simp [SnapshotFile.load, hp, delete_eq_error hd]
  | unread hp hr => simp [SnapshotFile.load, hp, hr]
  | undecoded hp hr hc hs => simp [SnapshotFile.load, hp, hr, hc, consume, hs]
  | undeleted hp hr hc hs hd => simp [SnapshotFile.load, hp, hr, hc, consume, hs, delete_eq_error hd]

/-- The file is deleted last, when nothing else can fail. -/
theorem load_of_not_fails (h : ∀ e, ¬f.Fails purge e) :
    ∃ found, f.Gives purge found ∧ (f.load purge).outcome = .ok found ∧
      (f.load purge).file = { f with content := none } := by
  cases purge with
  | true =>
    have hd : f.deletable = true :=
      (Bool.eq_false_or_eq_true _).resolve_right fun hd => h .io (.unpurged rfl hd)
    exact ⟨none, .nothing (.inl rfl), by simp [load, delete_eq_ok hd], by simp [load, delete_eq_ok hd]⟩
  | false =>
    have hr : f.readable = true :=
      (Bool.eq_false_or_eq_true _).resolve_right fun hr => h .io (.unread rfl hr)
    cases hc : f.content with
    | none =>
      have he : f = { f with content := none } := by rw [← hc]
      exact ⟨none, .nothing (.inr hc), by simp [load, hr, hc], by simpa [load, hr, hc] using he⟩
    | some bs =>
      cases hs : Snapshot.decode bs with
      | error e => exact absurd (.undecoded rfl hr hc hs) (h e)
      | ok p =>
        have hd : f.deletable = true :=
          (Bool.eq_false_or_eq_true _).resolve_right fun hd => h .io (.undeleted rfl hr hc hs hd)
        exact ⟨some p, .snapshot rfl hc hs, by simp [load, hr, hc, consume, hs, delete_eq_ok hd],
          by simp [load, hr, hc, consume, hs, delete_eq_ok hd]⟩

end SnapshotFile

namespace Service

variable {settings : Settings} {file : SnapshotFile}

/-- Why a service does not start. -/
inductive Refuses (settings : Settings) (file : SnapshotFile) : StartError → Prop
  | interval (h : settings.dispatchInterval.toNanoseconds = 0) : Refuses settings file .zeroInterval
  | file (h : 0 < settings.dispatchInterval.toNanoseconds) {e : SnapshotError}
    (he : file.Fails settings.purgeHistory e) : Refuses settings file (.snapshot e)

/-- The relay that a service starts with. -/
inductive Resumes (settings : Settings) (file : SnapshotFile) : Relay → Prop
  | fresh (h : settings.purgeHistory = true ∨ file.content = none) :
    Resumes settings file (.ofSettings settings)
  | restored (hp : settings.purgeHistory = false) {bs : List UInt8} {p : Snapshot}
    (hc : file.content = some bs) (hs : Snapshot.decode bs = .ok p) :
    Resumes settings file ((Relay.ofSettings settings).restore p)

/-- A start either fails, for one of the reasons there are, and does not touch the file, or it succeeds for
want of a reason, deletes the file and takes up all that was in it. -/
theorem start_outcome (settings : Settings) (feed : List FeedItem) (file : SnapshotFile) :
    (∃ e, start settings feed file = (.error e, file) ∧ Refuses settings file e) ∨
      ∃ service, start settings feed file = (.ok service, { file with content := none }) ∧
        Resumes settings file service.relay ∧ ∀ e, ¬Refuses settings file e := by
  by_cases hi : 0 < settings.dispatchInterval.toNanoseconds
  · by_cases hf : ∃ e, file.Fails settings.purgeHistory e
    · obtain ⟨e, he⟩ := hf
      refine .inl ⟨.snapshot e, ?_, .file hi he⟩
      rw [start, dif_pos hi]
      simp only [he.load]
    · have hn : ∀ e, ¬file.Fails settings.purgeHistory e := not_exists.mp hf
      obtain ⟨found, hg, ho, hl⟩ := SnapshotFile.load_of_not_fails hn
      rw [start, dif_pos hi]
      simp only [ho, hl]
      refine .inr ⟨_, rfl, ?_, ?_⟩
      · cases hg with
        | nothing h => exact .fresh h
        | snapshot hp hc hs => exact .restored hp hc hs
      · rintro _ (h | ⟨-, he⟩)
        · exact absurd h (Nat.ne_of_gt hi)
        · exact hn _ he
  · refine .inl ⟨.zeroInterval, ?_, .interval (Nat.eq_zero_of_not_pos hi)⟩
    rw [start, dif_neg hi]

/-- A file that ends within its first block stays when it cannot be read, and goes when history is purged. -/
theorem start_cutFile :
    let file : SnapshotFile := { SnapshotFile.absent "relay.dat" with content := some [66, 82, 76, 89, 2, 5] }
    (∃ e, start .defaults [] file = (.error e, file)) ∧
      (start { Settings.defaults with purgeHistory := true } [] file).2.content = none := by
  intro file
  have hr : Refuses .defaults file (.snapshot (.codec .unexpectedEnd)) :=
    .file (by decide) (.undecoded rfl rfl rfl rfl)
  constructor
  · rcases start_outcome .defaults [] file with ⟨e, hs, -⟩ | ⟨_, -, -, hn⟩
    · exact ⟨e, hs⟩
    · exact absurd hr (hn _)
  · rcases start_outcome { Settings.defaults with purgeHistory := true } [] file with ⟨e, -, he⟩ | ⟨_, hs, -⟩
    · obtain h | ⟨-, hf⟩ := he
      · exact absurd h (by decide)
      · cases hf <;> contradiction
    · rw [hs]

end Service

end FinalityRelay
