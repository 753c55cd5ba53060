import Einsatzcockpit.Planspiel.Records

namespace Einsatzcockpit.Planspiel

open Raising Relational Transition

def Welt.status? (welt : Welt) (id : Nat) : Option EreignisStatus := (welt.ereignis? id).map (·.status)

def Phase.haelt : Phase → Option Nat
  | .fuehrtAus _ id => some id
  | .gescheitert _ id _ => some id
  | _ => none

def Phase.seit : Phase → Option Zeit
  | .frei => none
  | .tickt tick => some tick.jetzt
  | .fuehrtAus tick _ => some tick.jetzt
  | .gescheitert tick _ _ => some tick.jetzt

def Phase.nimmt : Phase → Option (Nat × Zeit)
  | .tickt tick => tick.ids.head?.map fun id => (id, tick.jetzt)
  | _ => none

def EreignisStatus.vergriffen (status : EreignisStatus) : Bool :=
  status == .laeuft || status == .ausgefuehrt || status == .abgebrochen

/-- `status.in_` of the open events of `beenden` -/
def EreignisStatus.offen (status : EreignisStatus) : Bool :=
  status == .geplant || status == .faellig || status == .laeuft

/-- A claim is not outlived by the clock, and nothing is written on a row that
has gone on since it was read. -/
def Zulaessig (welt : Welt) : Aktion → Prop
  | .warte bis => ∀ e ∈ welt.ereignisse, e.status = .laeuft → ∀ frist ∈ e.leaseUntil, bis ≤ frist
  | .beanspruche arbeiter =>
    ∀ nimmt ∈ (welt.arbeiter[arbeiter]?).bind Phase.nimmt, welt.status? nimmt.1 = some .geplant → welt.uhr ≤ nimmt.2 + lease
  | .nachFehler arbeiter => ∀ id ∈ (welt.arbeiter[arbeiter]?).bind Phase.haelt, welt.status? id = some .laeuft
  | .verpasst _ event _ => event.status = .geplant → ∀ status ∈ welt.status? event.id, status.vergriffen = false
  | .ueberspringe _ event => event.status = .geplant → ∀ status ∈ welt.status? event.id, status.vergriffen = false
  | .jetzt _ event _ _ => event.status = .uebersprungen → ∀ status ∈ welt.status? event.id, status.vergriffen = false
  | .beende run gelesen _ =>
    ∀ e ∈ gelesen, e.runId = run.id → e.status.offen = true → ∀ jetzig ∈ welt.ereignis? e.id,
      jetzig.runId = run.id ∧ jetzig.status ≠ .ausgefuehrt ∧ jetzig.status ≠ .uebersprungen
  | .steuere run steuerung =>
    (∀ r ∈ welt.run? run.id, r.status = .beendet → ∀ phase ∈ welt.arbeiter, ∀ id ∈ phase.haelt, ∀ e ∈ welt.ereignis? id,
      e.runId ≠ run.id) ∨ ∃ aktiv, steuerung = .folgemeldungen aktiv
  | _ => True

instance (welt : Welt) (aktion : Aktion) : Decidable (Zulaessig welt aktion) := by
  unfold Zulaessig
  split <;> infer_instance

section Zugriff

variable {welt : Welt} {id : Nat}

theorem ereignis?_id {e : PlanspielRunEreignis} (found : welt.ereignis? id = some e) : e.id = id := by
  simpa using List.find?_some found

variable {werte : PlanspielRunEreignis → PlanspielRunEreignis} {other : Nat}

theorem ereignis?_setzeEreignis (keeps : ∀ e, (werte e).id = e.id)
    (other : Nat) : (welt.setzeEreignis id werte).ereignis? other =
      if other = id then (welt.ereignis? other).map werte else welt.ereignis? other :=
  find?_update_key PlanspielRunEreignis.id id other werte welt.ereignisse fun row atId => (keeps row).trans atId

theorem run?_setzeRun {werte : PlanspielRun → PlanspielRun} (keeps : ∀ r, (werte r).id = r.id) (other : Nat) :
    (welt.setzeRun id werte).run? other = if other = id then (welt.run? other).map werte else welt.run? other :=
  find?_update_key PlanspielRun.id id other werte welt.runs fun row atId => (keeps row).trans atId

section

variable (keeps : ∀ e, (werte e).id = e.id)
include keeps

theorem ereignis?_geschrieben {neu : PlanspielRunEreignis} (found : (welt.setzeEreignis id werte).ereignis? other = some neu) :
    other ≠ id ∧ welt.ereignis? other = some neu ∨
      other = id ∧ ∃ alt, welt.ereignis? id = some alt ∧ neu = werte alt := by
  rw [ereignis?_setzeEreignis keeps] at found
  split at found
  · next same =>
    subst same
    obtain ⟨alt, before, rfl⟩ := Option.map_eq_some_iff.mp found
    exact Or.inr ⟨rfl, alt, before, rfl⟩
  · next differs => exact Or.inl ⟨differs, found⟩

theorem geschrieben
    {alt : PlanspielRunEreignis} (found : welt.ereignis? id = some alt) :
    (welt.setzeEreignis id werte).ereignis? id = some (werte alt) := by
  rw [ereignis?_setzeEreignis keeps, if_pos rfl, found, Option.map_some]

theorem ereignis?_anderes (differs : other ≠ id) : (welt.setzeEreignis id werte).ereignis? other = welt.ereignis? other := by
  rw [ereignis?_setzeEreignis keeps, if_neg differs]

theorem status?_anderes (differs : other ≠ id) : (welt.setzeEreignis id werte).status? other = welt.status? other := by
  rw [Welt.status?, ereignis?_anderes keeps differs]
  rfl

end

theorem status?_eq_some {status : EreignisStatus} :
    welt.status? id = some status ↔ ∃ e, welt.ereignis? id = some e ∧ e.status = status :=
  Option.map_eq_some_iff

end Zugriff

def Welt.Gehalten (welt : Welt) (id : Nat) : Prop :=
  ∃ e, welt.ereignis? id = some e ∧
    (e.status = .laeuft ∨ e.status = .abgebrochen ∧ ∀ r, welt.run? e.runId = some r → r.status = .beendet)

structure Welt.Stimmt (welt : Welt) : Prop where
  nummern : (welt.ereignisse.map (·.id)).Nodup
  vergeben : ∀ e ∈ welt.ereignisse, e.id ≤ welt.vergeben
  einer : ∀ id i j : Nat, ∀ phase other : Phase, welt.arbeiter[i]? = some phase → welt.arbeiter[j]? = some other →
    phase.haelt = some id → other.haelt = some id → i = j
  gehalten : ∀ phase ∈ welt.arbeiter, ∀ id, phase.haelt = some id → welt.Gehalten id
  seit : ∀ phase ∈ welt.arbeiter, ∀ beginn, phase.seit = some beginn → beginn ≤ welt.uhr
  frist : ∀ id e, welt.ereignis? id = some e → e.status = .laeuft → ∃ frist, e.leaseUntil = some frist ∧ welt.uhr ≤ frist
  einmal : welt.wirkungen.Nodup
  wirkt : ∀ id, id ∈ welt.wirkungen ↔ welt.status? id = some .ausgefuehrt

/-- Whether an event has come to its end; a skipped one until the control
triggers it again. -/
def Fertig (erneut : Nat → Prop) (id : Nat) (status : EreignisStatus) : Prop :=
  status = .ausgefuehrt ∨ status = .abgebrochen ∨ status = .uebersprungen ∧ ¬ erneut id

/-- A sound state is reached, and what has come to its end stays there. -/
structure Geht (erneut : Nat → Prop) (welt welt' : Welt) : Prop where
  stimmt : welt'.Stimmt
  behaelt : ∀ id status, Fertig erneut id status → welt.status? id = some status → welt'.status? id = some status

namespace Geht

variable {erneut : Nat → Prop} {welt welt' welt'' : Welt}

theorem bleibt (stimmt : welt.Stimmt) : Geht erneut welt welt := ⟨stimmt, fun _ _ _ is => is⟩

theorem trans (first : Geht erneut welt welt') (second : Geht erneut welt' welt'') : Geht erneut welt welt'' :=
  ⟨second.stimmt, fun id status fertig is => second.behaelt id status fertig (first.behaelt id status fertig is)⟩

end Geht

structure Vertraegt (erneut : Nat → Prop) (welt : Welt) (alt neu : PlanspielRunEreignis) : Prop where
  frist : neu.status = .laeuft → ∃ frist, neu.leaseUntil = some frist ∧ welt.uhr ≤ frist
  gehalten : ∀ phase ∈ welt.arbeiter, phase.haelt = some alt.id →
    neu.status = .laeuft ∨ neu.status = .abgebrochen ∧ ∀ r, welt.run? neu.runId = some r → r.status = .beendet
  fertig : Fertig erneut alt.id alt.status → neu.status = alt.status

structure Erlaubt (erneut : Nat → Prop) (welt : Welt) (alt neu : PlanspielRunEreignis) : Prop
    extends Vertraegt erneut welt alt neu where
  wirkt : neu.status = .ausgefuehrt ↔ alt.status = .ausgefuehrt

section Schritte

variable {erneut : Nat → Prop} {welt : Welt} {id i : Nat} {phase : Phase}

variable {werte : PlanspielRunEreignis → PlanspielRunEreignis}

section

variable (stimmt : welt.Stimmt)
include stimmt

theorem Welt.Stimmt.schreibeMit
    (keeps : ∀ e, (werte e).id = e.id) {wirkungen : List Nat} (einmal : wirkungen.Nodup)
    (wirkt : ∀ other, other ∈ wirkungen ↔ (welt.setzeEreignis id werte).status? other = some .ausgefuehrt)
    (vertraegt : ∀ alt, welt.ereignis? id = some alt → Vertraegt erneut welt alt (werte alt)) :
    Geht erneut welt { welt.setzeEreignis id werte with wirkungen } := by
  refine ⟨⟨?_, fun e member => ?_, stimmt.einer, fun phase member other haelt => ?_, stimmt.seit, fun other e found => ?_,
    einmal, wirkt⟩, fun other isStatus fertig is => ?_⟩
  · have same : (welt.setzeEreignis id werte).ereignisse.map (·.id) = welt.ereignisse.map (·.id) :=
      map_update keeps welt.ereignisse
    rw [same]
    exact stimmt.nummern
  · obtain ⟨old, isOld, rfl⟩ := mem_update.mp member
    have same : (if old.id == id then werte old else old).id = old.id := by
      split
      · exact keeps old
      · rfl
    rw [same]
    exact stimmt.vergeben old isOld
  · obtain ⟨e, found, gehalten⟩ := stimmt.gehalten phase member other haelt
    by_cases same : other = id
    · subst same
      have isId := ereignis?_id found
      exact ⟨werte e, geschrieben keeps found, (vertraegt e found).gehalten phase member (by rw [isId]; exact haelt)⟩
    · exact ⟨e, (ereignis?_anderes keeps same).trans found, gehalten⟩
  · rcases ereignis?_geschrieben keeps found with ⟨-, before⟩ | ⟨rfl, alt, before, rfl⟩
    · exact stimmt.frist other e before
    · exact (vertraegt alt before).frist
  · by_cases same : other = id
    · subst same
      obtain ⟨e, found, rfl⟩ := status?_eq_some.mp is
      have isId := ereignis?_id found
      exact status?_eq_some.mpr
        ⟨werte e, geschrieben keeps found, (vertraegt e found).fertig (by rw [isId]; exact fertig)⟩
    · exact (status?_anderes keeps same).trans is

theorem Welt.Stimmt.schreibe
    (keeps : ∀ e, (werte e).id = e.id)
    (erlaubt : ∀ alt, welt.ereignis? id = some alt → Erlaubt erneut welt alt (werte alt)) :
    Geht erneut welt (welt.setzeEreignis id werte) := by
  refine stimmt.schreibeMit keeps stimmt.einmal (fun other => (stimmt.wirkt other).trans ?_)
    fun alt found => (erlaubt alt found).toVertraegt
  by_cases same : other = id
  · subst same
    rw [status?_eq_some, status?_eq_some]
    constructor
    · rintro ⟨e, found, ausgefuehrt⟩
      exact ⟨werte e, geschrieben keeps found, (erlaubt e found).wirkt.mpr ausgefuehrt⟩
    · rintro ⟨e, found, ausgefuehrt⟩
      rcases ereignis?_geschrieben keeps found with ⟨differs, -⟩ | ⟨-, alt, before, rfl⟩
      · exact absurd rfl differs
      · exact ⟨alt, before, (erlaubt alt before).wirkt.mp ausgefuehrt⟩
  · rw [status?_anderes keeps same]

theorem Welt.Stimmt.setzeArbeiter (seit : ∀ beginn, phase.seit = some beginn → beginn ≤ welt.uhr)
    (gehalten : ∀ id, phase.haelt = some id → welt.Gehalten id ∧
      ∀ (j : Nat) (other : Phase), welt.arbeiter[j]? = some other → other.haelt = some id → j = i) :
    Geht erneut welt (welt.setzeArbeiter i phase) := by
  refine ⟨⟨stimmt.nummern, stimmt.vergeben, fun id j k first second atJ atK haelt haelt' => ?_, fun other member id haelt => ?_,
    fun other member beginn isSeit => ?_, stimmt.frist, stimmt.einmal, stimmt.wirkt⟩, fun _ _ _ is => is⟩
  · rcases getElem?_set_cases atJ with ⟨rfl, rfl⟩ | ⟨-, before⟩
    · rcases getElem?_set_cases atK with ⟨rfl, rfl⟩ | ⟨-, before'⟩
      · rfl
      · exact ((gehalten id haelt).2 k second before' haelt').symm
    · rcases getElem?_set_cases atK with ⟨rfl, rfl⟩ | ⟨-, before'⟩
      · exact (gehalten id haelt').2 j first before haelt
      · exact stimmt.einer id j k first second before before' haelt haelt'
  · rcases List.mem_or_eq_of_mem_set member with old | rfl
    · exact stimmt.gehalten other old id haelt
    · exact (gehalten id haelt).1
  · rcases List.mem_or_eq_of_mem_set member with old | rfl
    · exact stimmt.seit other old beginn isSeit
    · exact seit beginn isSeit

theorem Welt.Stimmt.lasse (seit : ∀ beginn, phase.seit = some beginn → beginn ≤ welt.uhr)
    (frei : phase.haelt = none) : Geht erneut welt (welt.setzeArbeiter i phase) :=
  stimmt.setzeArbeiter seit fun id haelt => by rw [frei] at haelt; cases haelt

theorem Welt.Stimmt.setzeRun {werte : PlanspielRun → PlanspielRun} (keeps : ∀ r, (werte r).id = r.id)
    (endet : ∀ r, welt.run? id = some r → r.status = .beendet →
      (werte r).status = .beendet ∨ ∀ phase ∈ welt.arbeiter, ∀ eid, phase.haelt = some eid →
        ∀ e, welt.ereignis? eid = some e → e.runId ≠ id) :
    Geht erneut welt (welt.setzeRun id werte) := by
  refine ⟨⟨stimmt.nummern, stimmt.vergeben, stimmt.einer, fun phase member eid haelt => ?_, stimmt.seit, stimmt.frist, stimmt.einmal,
    stimmt.wirkt⟩, fun _ _ _ is => is⟩
  obtain ⟨e, found, gehalten⟩ := stimmt.gehalten phase member eid haelt
  refine ⟨e, found, gehalten.imp_right fun ⟨abgebrochen, beendet⟩ => ⟨abgebrochen, fun r isRun => ?_⟩⟩
  rw [run?_setzeRun keeps] at isRun
  split at isRun
  · next same =>
    obtain ⟨old, isOld, rfl⟩ := Option.map_eq_some_iff.mp isRun
    have isBeendet := beendet old isOld
    rw [same] at isOld
    rcases endet old isOld isBeendet with still | nobody
    · exact still
    · exact absurd same (nobody phase member eid haelt e found)
  · exact beendet r isRun

theorem Welt.Stimmt.neuesEreignis {ereignis : PlanspielRunEreignis}
    (geplant : ereignis.status = .geplant) : Geht erneut welt (welt.neuesEreignis ereignis) := by
  unfold Welt.neuesEreignis
  split
  swap
  · exact Geht.bleibt stimmt
  have bekannt : ∀ other e, welt.ereignis? other = some e →
      (welt.ereignisse ++ [{ ereignis with id := welt.vergeben + 1 }]).find? (fun e => e.id == other) = some e := by
    intro other e found
    have before : welt.ereignisse.find? (fun e => e.id == other) = some e := found
    rw [List.find?_append, before, Option.some_or]
  have neu : ∀ other e,
      (welt.ereignisse ++ [{ ereignis with id := welt.vergeben + 1 }]).find? (fun e => e.id == other) = some e →
      welt.ereignis? other = some e ∨ e.status = .geplant := by
    intro other e found
    have atId := List.find?_some found
    rcases List.mem_append.mp (List.mem_of_find?_eq_some found) with old | new
    · rw [List.find?_append] at found
      rcases Option.or_eq_some_iff.mp found with before | ⟨missing, -⟩
      · exact Or.inl before
      · exact absurd atId (List.find?_eq_none.mp missing e old)
    · rw [List.mem_singleton.mp new]
      exact Or.inr geplant
  refine ⟨⟨?_, fun e member => ?_, stimmt.einer, fun phase member other haelt => ?_, stimmt.seit,
    fun other e found laeuft => ?_, stimmt.einmal, fun other => (stimmt.wirkt other).trans ?_⟩, fun other status _ is => ?_⟩
  · rw [List.map_append, List.map_singleton, List.nodup_append]
    refine ⟨stimmt.nummern, List.nodup_singleton _, fun a old b new same => ?_⟩
    obtain ⟨e, member, rfl⟩ := List.mem_map.mp old
    have bound := stimmt.vergeben e member
    have next : e.id = welt.vergeben + 1 := same.trans (List.mem_singleton.mp new)
    omega
  · rcases List.mem_append.mp member with old | new
    · exact (stimmt.vergeben e old).trans (Nat.le_succ _)
    · rw [List.mem_singleton.mp new]
  · obtain ⟨e, found, gehalten⟩ := stimmt.gehalten phase member other haelt
    exact ⟨e, bekannt other e found, gehalten⟩
  · rcases neu other e found with before | isGeplant
    · exact stimmt.frist other e before laeuft
    · rw [isGeplant] at laeuft
      cases laeuft
  · rw [status?_eq_some, status?_eq_some]
    constructor
    · rintro ⟨e, found, ausgefuehrt⟩
      exact ⟨e, bekannt other e found, ausgefuehrt⟩
    · rintro ⟨e, found, ausgefuehrt⟩
      rcases neu other e found with before | isGeplant
      · exact ⟨e, before, ausgefuehrt⟩
      · rw [isGeplant] at ausgefuehrt
        cases ausgefuehrt
  · obtain ⟨e, found, isStatus⟩ := status?_eq_some.mp is
    exact status?_eq_some.mpr ⟨e, bekannt other e found, isStatus⟩

theorem Welt.Stimmt.warte {bis : Zeit} (zulaessig : Zulaessig welt (.warte bis)) :
    Geht erneut welt { welt with uhr := max welt.uhr bis } := by
  refine ⟨⟨stimmt.nummern, stimmt.vergeben, stimmt.einer, stimmt.gehalten, fun phase member beginn isSeit => ?_, fun other e found laeuft => ?_,
    stimmt.einmal, stimmt.wirkt⟩, fun _ _ _ is => is⟩
  · exact (stimmt.seit phase member beginn isSeit).trans (le_max_left _ _)
  · obtain ⟨frist, isFrist, before⟩ := stimmt.frist other e found laeuft
    have member : e ∈ welt.ereignisse := List.mem_of_find?_eq_some found
    exact ⟨frist, isFrist, max_le before (zulaessig e member laeuft frist isFrist)⟩

end

end Schritte

section Schreiben

variable {erneut : Nat → Prop} {welt : Welt} {alt neu : PlanspielRunEreignis}

section

variable (stimmt : welt.Stimmt) (found : welt.ereignis? alt.id = some alt)
include stimmt found

theorem Erlaubt.gleich (runId : neu.runId = alt.runId)
    (status : neu.status = alt.status) (frist : neu.leaseUntil = alt.leaseUntil) : Erlaubt erneut welt alt neu := by
  refine ⟨⟨fun laeuft => ?_, fun phase member haelt => ?_, fun _ => status⟩, by rw [status]⟩
  · rw [frist]
    exact stimmt.frist alt.id alt found (status ▸ laeuft)
  · obtain ⟨e, found', gehalten⟩ := stimmt.gehalten phase member alt.id haelt
    rw [found] at found'
    cases found'
    rw [status, runId]
    exact gehalten

end

theorem Erlaubt.abbruch (ausgefuehrt : alt.status ≠ .ausgefuehrt) (uebersprungen : alt.status ≠ .uebersprungen)
    (status : neu.status = .abgebrochen) (beendet : ∀ r, welt.run? neu.runId = some r → r.status = .beendet) :
    Erlaubt erneut welt alt neu := by
  have anders : neu.status ≠ .laeuft ∧ neu.status ≠ .ausgefuehrt := by
    rw [status]
    exact ⟨EreignisStatus.noConfusion, EreignisStatus.noConfusion⟩
  refine ⟨⟨fun is => absurd is anders.1, fun _ _ _ => Or.inr ⟨status, beendet⟩, fun fertig => ?_⟩,
    iff_of_false anders.2 ausgefuehrt⟩
  · rcases fertig with is | is | ⟨is, -⟩
    · exact absurd is ausgefuehrt
    · exact status.trans is.symm
    · exact absurd is uebersprungen

end Schreiben

section Arbeiter

variable {erneut : Nat → Prop} {welt : Welt} {arbeiter : Nat}

variable {id : Nat} {tick : Tick}

end Arbeiter

section Regie

variable {erneut : Nat → Prop} {welt : Welt}

variable {run : PlanspielRun} {event : PlanspielRunEreignis} {jetzt : Zeit} {welt' : Welt} {clientUuid : Option String}

section

variable (stimmt : welt.Stimmt)
include stimmt

end

theorem werte_id {steuerung : Steuerung} {werte : PlanspielRun → PlanspielRun}
    (ok : steuerung.werte run = .ok werte) (r : PlanspielRun) : (werte r).id = r.id := by
  cases steuerung with
  | pausieren jetzt =>
    simp only [Steuerung.werte, pausieren, bind_eq_ok, require_eq_ok, pure_eq_ok] at ok
    obtain ⟨-, -, rfl⟩ := ok
    rfl
  | fortsetzen jetzt =>
    simp only [Steuerung.werte, fortsetzen, bind_eq_ok, require_eq_ok, demand_eq_ok, pure_eq_ok] at ok
    obtain ⟨-, -, -, -, rfl⟩ := ok
    rfl
  | folgemeldungen aktiv =>
    simp only [Steuerung.werte, folgemeldungenSetzen, bind_eq_ok, pure_eq_ok] at ok
    obtain ⟨-, -, rfl⟩ := ok
    rfl
  | generatorStoppen =>
    simp only [Steuerung.werte, generatorStoppen, bind_eq_ok, require_eq_ok, pure_eq_ok] at ok
    obtain ⟨-, -, rfl⟩ := ok
    rfl
  | generatorFortsetzen obergrenze =>
    simp only [Steuerung.werte, generatorFortsetzen, bind_eq_ok, require_eq_ok, pure_eq_ok] at ok
    obtain ⟨-, -, -, -, rfl⟩ := ok
    rfl

end Regie

/-- An exercise before its first tick: no event has been taken. -/
structure Welt.Beginn (welt : Welt) : Prop where
  nummern : (welt.ereignisse.map (·.id)).Nodup
  vergeben : ∀ e ∈ welt.ereignisse, e.id ≤ welt.vergeben
  offen : ∀ e ∈ welt.ereignisse, e.status ≠ .laeuft ∧ e.status ≠ .ausgefuehrt
  frei : ∀ phase ∈ welt.arbeiter, phase = .frei
  wirkungen : welt.wirkungen = []

theorem Welt.Beginn.stimmt {welt : Welt} (beginn : welt.Beginn) : welt.Stimmt := by
  refine ⟨beginn.nummern, beginn.vergeben, fun id i j phase other atI _ haelt _ => ?_, fun phase member id haelt => ?_,
    fun phase member seit isSeit => ?_, fun id e found laeuft => ?_, ?_, fun id => ?_⟩
  · rw [beginn.frei phase (List.mem_of_getElem? atI)] at haelt
    cases haelt
  · rw [beginn.frei phase member] at haelt
    cases haelt
  · rw [beginn.frei phase member] at isSeit
    cases isSeit
  · exact absurd laeuft (beginn.offen e (List.mem_of_find?_eq_some found)).1
  · rw [beginn.wirkungen]
    exact List.nodup_nil
  · rw [beginn.wirkungen, status?_eq_some]
    refine iff_of_false List.not_mem_nil ?_
    rintro ⟨e, found, ausgefuehrt⟩
    exact (beginn.offen e (List.mem_of_find?_eq_some found)).2 ausgefuehrt

section Laeufe

variable {welt : Welt} {aktionen : List Aktion}

section

variable (stimmt : welt.Stimmt) (zulaessig : Meets step Zulaessig welt aktionen)
include stimmt zulaessig

end

end Laeufe

section Beispiel

def uebung : PlanspielRun := { id := 1, status := .laeuft, gestartetAt := some 0, incidentId := some 7 }

def meldung : PlanspielRunEreignis :=
  { id := 1, runId := 1, seq := 1, quelle := .szenario, zielId := some 7, faelligSimS := some 0, idempotenzKey := "run1:1" }

def nachmeldung : PlanspielRunEreignis :=
  { id := 2, runId := 1, seq := 2, quelle := .szenario, zielId := some 7, faelligSimS := some 300, idempotenzKey := "run1:2" }

def ablauf : List Aktion :=
  [.lies 0 1, .beanspruche 0, .fuehreAus 0 (.ok (some 5)), .ueberspringe uebung nachmeldung, .beanspruche 0]

/-- Two workers have read the event; the claim of the first has run out when it
is made. -/
def doppelt : List Aktion :=
  [.lies 0 1, .warte (sekunden 70), .lies 1 1, .warte (sekunden 71), .beanspruche 0, .beanspruche 1,
    .fuehreAus 0 (.ok (some 5)), .fuehreAus 1 (.ok (some 6))]

end Beispiel

end Einsatzcockpit.Planspiel
