import Einsatzcockpit.Agent.Version
import Mathlib.Data.List.Perm.Subperm

/-! The releases that are offered to a device, `select_release`. -/

namespace Einsatzcockpit.Agent

def null : Version := ⟨['0'], by decide⟩

inductive Channel where
  | stable
  | beta
  deriving DecidableEq

inductive Arch where
  | amd64
  | arm64
  deriving DecidableEq

/-- A row of `InfoscreenRelease`, as its metadata were accepted. -/
structure Release where
  version : Version
  channel : Channel
  arch : Arch
  minVersion : Option Version
  rolloutPercent : Int
  blocked : Bool
  keyId : String
  storagePath : Option String

/-- What `select_release` reads of a device. -/
structure Device where
  id : Nat
  channel : Channel
  updatePinnedVersion : Option Version
  updateLocked : Bool

variable (sha256 : List Char → Nat)

/-- `rollout_bucket`; `sha256` is the digest as a number. -/
def rolloutBucket (deviceId : Nat) (version : Version) : Int := sha256 ((toString deviceId).toList ++ version.1) % 100

def eligible (row : Release) (device : Device) (initial : Bool) (current : Version) : Bool :=
  if row.blocked || row.rolloutPercent ≤ 0 || row.channel ≠ device.channel then false
  else if initial then true
  else !device.updateLocked && (device.updatePinnedVersion.all (row.version = ·)) &&
    rolloutBucket sha256 device.id row.version < row.rolloutPercent &&
    0 ≤ versionCompare current.1 (row.minVersion.getD null).1 && 0 < versionCompare row.version.1 current.1

/-- `max` by `version_compare`: of the greatest rows the first. -/
def neuestes : List Release → Option Release
  | [] => none
  | first :: rows => some (rows.foldl (fun best row => if 0 < versionCompare row.version.1 best.version.1 then row else best) first)

def selectRelease (table : List Release) (device : Device) (arch : Arch) (initial : Bool) (current : Version) : Option Release :=
  let rows := table.filter fun row =>
    row.arch = arch && row.channel = device.channel && row.keyId ≠ "" && row.storagePath.isSome && row.minVersion.isSome
  neuestes (rows.filter fun row => eligible sha256 row device initial current)

/-- Updates that are offered one after the other, each to the device as it then is and
with the version of the last one as the current one. -/
inductive Angeboten (table : List Release) : Version → List Version → Prop
  | nil (current : Version) : Angeboten table current []
  | cons {current : Version} {row : Release} {versions : List Version} (device : Device) (arch : Arch) :
      selectRelease sha256 table device arch false current = some row → Angeboten table row.version versions →
      Angeboten table current (row.version :: versions)

section Auswahl

variable {sha256} {table : List Release} {device : Device} {arch : Arch} {current : Version} {row : Release}
  {versions : List Version}

theorem mem_neuestes {rows : List Release} (found : neuestes rows = some row) : row ∈ rows := by
  cases rows with
  | nil => cases found
  | cons first rows =>
    obtain rfl := Option.some.inj found
    clear found
    induction rows generalizing first with
    | nil => exact List.mem_singleton_self _
    | cons second rows ih =>
      rw [List.foldl_cons]
      split
      · exact List.mem_cons_of_mem _ (ih second)
      · rcases List.mem_cons.mp (ih first) with same | later
        · exact List.mem_cons.mpr (Or.inl same)
        · exact List.mem_cons_of_mem _ (List.mem_cons_of_mem _ later)

theorem selectRelease_newer (found : selectRelease sha256 table device arch false current = some row) :
    row ∈ table ∧ schluessel current.1 < schluessel row.version.1 := by
  obtain ⟨inside, fits⟩ := List.mem_filter.mp (mem_neuestes found)
  refine ⟨(List.mem_filter.mp inside).1, (versionCompare_signs _ _).pos_iff.mp ?_⟩
  rw [eligible] at fits
  split at fits
  · cases fits
  · simp only [Bool.false_eq_true, if_false, Bool.and_eq_true, decide_eq_true_eq] at fits
    exact fits.2

theorem Angeboten.steigend (angeboten : Angeboten sha256 table current versions) :
    (current :: versions).Pairwise (fun a b => schluessel a.1 < schluessel b.1) ∧ versions ⊆ table.map (·.version) := by
  induction angeboten with
  | nil current => exact ⟨List.pairwise_singleton _ _, List.nil_subset _⟩
  | @cons current row versions device arch found _ ih =>
    obtain ⟨inside, newer⟩ := selectRelease_newer found
    refine ⟨List.pairwise_cons.mpr ⟨fun version member => ?_, ih.1⟩, List.cons_subset.mpr ⟨List.mem_map_of_mem inside, ih.2⟩⟩
    rcases List.mem_cons.mp member with rfl | later
    · exact newer
    · exact newer.trans ((List.pairwise_cons.mp ih.1).1 version later)

theorem Angeboten.endlich (angeboten : Angeboten sha256 table current versions) : versions.length ≤ table.length := by
  obtain ⟨rising, inside⟩ := angeboten.steigend
  have nodup : versions.Nodup := (List.pairwise_cons.mp rising).2.imp fun {a b} less same => less.ne (by rw [same])
  exact (List.subperm_of_subset nodup inside).length_le.trans_eq (List.length_map _)

end Auswahl

theorem versionCompare_ordnung :
    (∀ a b : Version, Endless.Signs (versionCompare a.1 b.1) (schluessel a.1) (schluessel b.1)) ∧
    (∀ a b : Version, versionCompare b.1 a.1 = -versionCompare a.1 b.1) ∧
    (∀ a b c : Version, versionCompare a.1 b.1 ≤ 0 → versionCompare b.1 c.1 ≤ 0 → versionCompare a.1 c.1 ≤ 0) ∧
    (∀ a b : Version, versionCompare a.1 b.1 ≤ 0 ∨ versionCompare b.1 a.1 ≤ 0) ∧
    ∀ (sha256 : List Char → Nat) (table : List Release) (current : Version) (versions : List Version),
      Angeboten sha256 table current versions →
      (current :: versions).Pairwise (fun a b => 0 < versionCompare b.1 a.1) ∧ versions.length ≤ table.length := by
  have signs (a b : Version) := versionCompare_signs a.1 b.1
  refine ⟨signs, fun a b => (signs a b).swap (signs b a), fun a b c le le' => ?_, fun a b => ?_, fun sha256 table current versions angeboten => ?_⟩
  · rw [(signs _ _).nonpos_iff] at le le' ⊢
    exact le.trans le'
  · rw [(signs _ _).nonpos_iff, (signs _ _).nonpos_iff]
    exact le_total _ _
  · exact ⟨angeboten.steigend.1.imp fun {a b} less => (signs b a).pos_iff.mpr less, angeboten.endlich⟩

end Einsatzcockpit.Agent
