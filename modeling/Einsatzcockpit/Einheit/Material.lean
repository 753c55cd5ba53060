import Einsatzcockpit.Einheit.Einmal

namespace Einsatzcockpit.Einheit

open Transition Unique

def Wert.wahr : Wert → Bool
  | .skalar .null => false
  | .skalar (.bool wert) => wert
  | .skalar (.zahl wert) => wert != 0
  | .skalar (.text wert) => wert != ""
  | .objekt felder => felder != []

/-- What `material` keeps while it handles a request: the parts of the body it
reads after the action, and whether the callback has handed the material out. -/
structure Endpunkt where
  smsSenden : Bool := false
  telefon : Option String := none
  pinSenden : Bool := false
  ausgefuehrt : Bool := false

/-- `sende_material_sms` and `autoprint_verleih_background` -/
inductive Hintergrund where
  | sms | druck
  deriving DecidableEq

/-- A background job, and the id of the request it was scheduled for. -/
structure Auftrag where
  clientUuid : String
  art : Hintergrund
  entityId : Option Wert
  pinSenden : Bool := false

/-- The end of `material`: what it schedules for the answer it has been given. -/
def plane (endpunkt : Endpunkt) (anfrage : Anfrage) (antwort : Antwort) (code : Nat) : List Auftrag :=
  if code = 200 ∧ (antwort.get "ok").any Wert.wahr ∧ endpunkt.ausgefuehrt then
    let entityId := antwort.get "entity_id"
    let sms : Auftrag := { clientUuid := anfrage.clientUuid, art := .sms, entityId, pinSenden := endpunkt.pinSenden }
    let druck : Auftrag := { clientUuid := anfrage.clientUuid, art := .druck, entityId }
    (if endpunkt.smsSenden ∧ endpunkt.telefon.any (· != "") then [sms] else []) ++ [druck]
  else []

/-- The transactions, the requests for material among them and the jobs scheduled so far. -/
structure Material (σ : Type*) where
  welt : Welt σ
  endpunkte : Nat → Option Endpunkt := fun _ => none
  auftraege : List Auftrag := []

inductive Zug (σ : Type*) where
  | material (s : Nat) (anfrage : Anfrage) (koerper : Endpunkt)
  | weiter (schritt : Schritt σ)

variable {σ : Type*}

def Schritt.sitzung : Schritt σ → Option Nat
  | .beginne s _ | .schliesseAb s | .wiederhole s => some s
  | _ => none

def Material.setze (material : Material σ) (s : Nat) (endpunkt : Option Endpunkt) : Material σ :=
  { material with endpunkte := Function.update material.endpunkte s endpunkt }

def Material.weiter (material : Material σ) (schritt : Schritt σ) : Material σ :=
  let welt := step material.welt schritt
  let gegeben := welt.antworten.drop material.welt.antworten.length
  let endpunkt := schritt.sitzung.bind material.endpunkte
  { material with
    welt
    auftraege := material.auftraege ++ endpunkt.toList.flatMap fun endpunkt =>
      gegeben.flatMap fun (anfrage, antwort, code) => plane endpunkt anfrage antwort code }

def Material.merke (material : Material σ) (s : Nat) (ausfuehrung : Ausfuehrung σ) : Material σ :=
  match material.welt.sitzungen s, ausfuehrung.ausgang with
  | .bereit _, .antwort _ => material.setze s ((material.endpunkte s).map fun e => { e with ausgefuehrt := true })
  | _, _ => material

def Material.step (material : Material σ) : Zug σ → Material σ
  | .material s anfrage koerper =>
    match material.welt.sitzungen s with
    | .frei =>
      (material.setze s (some { koerper with ausgefuehrt := false })).weiter (.beginne s { anfrage with aktion := "material" })
    | _ => material
  -- a request to another endpoint
  | .weiter (.beginne s anfrage) =>
    match material.welt.sitzungen s with
    | .frei => (material.setze s none).weiter (.beginne s anfrage)
    | _ => material
  | .weiter (.fuehreAus s ausfuehrung) => (material.merke s ausfuehrung).weiter (.fuehreAus s ausfuehrung)
  | .weiter schritt => material.weiter schritt

/-- The request has handed material out, lost the race for its id, and finds
the row of a success that answers it. -/
def Material.verloren (material : Material σ) (s : Nat) : Bool :=
  match material.endpunkte s, material.welt.sitzungen s with
  | some endpunkt, .kollidiert anfrage =>
    endpunkt.ausgefuehrt && (vorhandene material.welt.aktionen.rows anfrage).any fun row =>
      (wiedergabe row anfrage).2 == 200 && ((wiedergabe row anfrage).1.get "ok").any Wert.wahr
  | _, _ => false

def Material.allein (material : Material σ) : Zug σ → Bool
  | .weiter (.wiederhole s) => !material.verloren s
  | _ => true

theorem foldl_buche (anfrage : Option Anfrage) (selbst : List (σ → σ)) (welt : Welt σ) :
    let welt' := selbst.foldl (fun welt wirkung => welt.buche anfrage wirkung) welt
    welt'.aktionen = welt.aktionen ∧ welt'.sitzungen = welt.sitzungen ∧ welt'.antworten = welt.antworten := by
  induction selbst generalizing welt with
  | nil => exact ⟨rfl, rfl, rfl⟩
  | cons wirkung rest ih => exact ih (welt.buche anfrage wirkung)

theorem fuehreAus_spec (s : Nat) (anfrage : Anfrage) (ausfuehrung : Ausfuehrung σ) (welt : Welt σ) :
    (fuehreAus s anfrage ausfuehrung welt).aktionen = welt.aktionen ∧
      (fuehreAus s anfrage ausfuehrung welt).antworten = welt.antworten ∧
      ∀ s', s' ≠ s → (fuehreAus s anfrage ausfuehrung welt).sitzungen s' = welt.sitzungen s' := by
  obtain ⟨aktionen, sitzungen, antworten⟩ := foldl_buche (some anfrage) ausfuehrung.selbst welt
  unfold fuehreAus
  dsimp only
  split <;>
    exact ⟨aktionen, antworten, fun s' other => (Function.update_of_ne other ..).trans (congrFun sitzungen s')⟩

/-- What the table holds between the steps, whatever the callbacks commit on their own. -/
structure Welt.Gehalten (welt : Welt σ) : Prop where
  sound : welt.aktionen.Sound (·.clientUuid)
  held : ∀ s row, (s, row) ∈ welt.aktionen.held →
    ∃ anfrage wirkung, welt.sitzungen s = .geschrieben anfrage wirkung ∧ row.clientUuid = anfrage.clientUuid

namespace Welt.Gehalten

variable {welt : Welt σ}

section

variable (gehalten : welt.Gehalten)
include gehalten

theorem ohneZeile {s : Nat}
    (state : ∀ anfrage wirkung, welt.sitzungen s ≠ .geschrieben anfrage wirkung) (row : EinheitAktion) :
    (s, row) ∉ welt.aktionen.held := by
  intro member
  obtain ⟨anfrage, wirkung, written, -⟩ := gehalten.held s row member
  exact state anfrage wirkung written

theorem setze {welt' : Welt σ} (sound : welt'.aktionen.Sound (·.clientUuid)) {s : Nat}
    (fewer : ∀ entry ∈ welt'.aktionen.held, entry ∈ welt.aktionen.held) (released : ∀ row, (s, row) ∉ welt'.aktionen.held)
    (others : ∀ s', s' ≠ s → welt'.sitzungen s' = welt.sitzungen s') : welt'.Gehalten := by
  refine ⟨sound, fun s' row member => ?_⟩
  have other : s' ≠ s := by
    rintro rfl
    exact released row member
  obtain ⟨anfrage, wirkung, state, uuid⟩ := gehalten.held s' row (fewer _ member)
  exact ⟨anfrage, wirkung, (others s' other).trans state, uuid⟩

theorem schreibe {s : Nat} (ohne : ∀ row, (s, row) ∉ welt.aktionen.held) (now : Zeit)
    (anfrage : Anfrage) (antwort : Antwort) (ergebnis : Ergebnis) (wirkung : σ → σ) :
    (schreibe s now anfrage antwort ergebnis wirkung welt).Gehalten := by
  unfold Einheit.schreibe
  dsimp only
  split
  · next aktionen written =>
    have sound := gehalten.sound.insert (Table.row?_eq_none ohne) (zeile now welt.naechsteId anfrage antwort ergebnis)
    rw [written] at sound
    refine ⟨sound, fun s' row member => ?_⟩
    have inside : (s', row) ∈ aktionen.held := member
    rw [(Table.inserted_spec written).2] at inside
    rcases List.mem_append.mp inside with old | new
    · have other : s' ≠ s := by
        rintro rfl
        exact ohne row old
      obtain ⟨anfrage', wirkung', state, uuid⟩ := gehalten.held s' row old
      exact ⟨anfrage', wirkung', (Function.update_of_ne other ..).trans state, uuid⟩
    · cases List.mem_singleton.mp new
      exact ⟨anfrage, wirkung, Function.update_self .., rfl⟩
  · exact gehalten.setze gehalten.sound (fun _ member => member) ohne fun s' other => Function.update_of_ne other ..
  · exact gehalten

theorem schreibeFremd {s : Nat} (ohne : ∀ row, (s, row) ∉ welt.aktionen.held)
    (row : EinheitAktion) (wirkung : σ → σ) : (schreibeFremd s row wirkung welt).Gehalten := by
  unfold Einheit.schreibeFremd
  split
  · next aktionen written =>
    have sound := gehalten.sound.insert (Table.row?_eq_none ohne) row
    rw [written] at sound
    refine gehalten.setze (sound.commit s) (fun entry member => ?_) sound.not_held fun s' _ => rfl
    have inside := Table.held_rollback.subset member
    rw [(Table.inserted_spec written).2] at inside
    rcases List.mem_append.mp inside with old | new
    · exact old
    · cases List.mem_singleton.mp new
      exact absurd member (sound.not_held row)
  · exact gehalten

theorem verwirf (s : Nat) (sitzung : Sitzung σ) : (verwirf s sitzung welt).Gehalten :=
  gehalten.setze (gehalten.sound.rollback s) (fun _ member => Table.held_rollback.subset member) gehalten.sound.not_held
    fun _ other => Function.update_of_ne other ..

theorem schliesseAb (s : Nat) (anfrage : Anfrage) (wirkung : σ → σ) :
    (schliesseAb s anfrage wirkung welt).Gehalten := by
  unfold Einheit.schliesseAb
  split
  · exact gehalten
  · exact gehalten.setze (gehalten.sound.commit s) (fun _ member => Table.held_rollback.subset member)
      gehalten.sound.not_held fun _ other => Function.update_of_ne other ..

theorem step (schritt : Schritt σ) : (Einheit.step welt schritt).Gehalten := by
  cases schritt with
  | beginne s anfrage =>
    simp only [Einheit.step]
    split
    · next state =>
      unfold beginne
      split
      · exact gehalten
      · split
        · exact ⟨gehalten.sound, gehalten.held⟩
        · exact gehalten.setze gehalten.sound (fun _ member => member) (gehalten.ohneZeile (by simp [state]))
            fun _ other => Function.update_of_ne other ..
    · exact gehalten
  | fuehreAus s ausfuehrung =>
    simp only [Einheit.step]
    split
    · next anfrage state =>
      obtain ⟨aktionen, _, others⟩ := fuehreAus_spec s anfrage ausfuehrung welt
      refine gehalten.setze ?_ (fun entry member => ?_) (fun row member => ?_) others
      · rw [aktionen]
        exact gehalten.sound
      · rw [aktionen] at member
        exact member
      · rw [aktionen] at member
        exact gehalten.ohneZeile (by simp [state]) row member
    · exact gehalten
  | schreibe s now =>
    simp only [Einheit.step]
    split
    · next anfrage antwort ergebnis wirkung state =>
      exact gehalten.schreibe (gehalten.ohneZeile (by simp [state])) now anfrage antwort ergebnis wirkung
    · exact gehalten
  | schliesseAb s =>
    simp only [Einheit.step]
    split
    · exact gehalten.schliesseAb s _ _
    · exact gehalten
  | verletzt s =>
    simp only [Einheit.step]
    split
    · exact gehalten.verwirf s _
    · exact gehalten.verwirf s _
    · exact gehalten
  | wiederhole s =>
    simp only [Einheit.step]
    split
    · next anfrage state =>
      unfold wiederhole
      split <;>
        exact gehalten.setze gehalten.sound (fun _ member => member) (gehalten.ohneZeile (by simp [state]))
          fun _ other => Function.update_of_ne other ..
    · exact gehalten
  | abbruch s => exact gehalten.verwirf s .frei
  | fremd s row wirkung =>
    simp only [Einheit.step]
    split
    · next state => exact gehalten.schreibeFremd (gehalten.ohneZeile (by simp [state])) row wirkung
    · exact gehalten
  | umwelt wirkung => exact ⟨gehalten.sound, gehalten.held⟩

end

end Welt.Gehalten

/-- The row is committed with the answer: the answer is the one of the row that was written. -/
structure Abgeschlossen (welt welt' : Welt σ) (s : Nat) (anfrage : Anfrage) (row : EinheitAktion) : Prop where
  written : welt.aktionen.row? s = some row
  rows : welt'.aktionen.rows = welt.aktionen.rows ++ [row]
  uuid : row.clientUuid = anfrage.clientUuid

theorem step_antworten {welt : Welt σ} (gehalten : welt.Gehalten) (schritt : Schritt σ) :
    (step welt schritt).antworten = welt.antworten ∨
      ∃ s anfrage antwort, (step welt schritt).antworten = welt.antworten ++ [(anfrage, antwort)] ∧
        schritt.sitzung = some s ∧ (schritt = .beginne s anfrage ∨
          (∃ row, Abgeschlossen welt (step welt schritt) s anfrage row) ∨
          schritt = .wiederhole s ∧ welt.sitzungen s = .kollidiert anfrage ∧
            ∃ row, vorhandene welt.aktionen.rows anfrage = some row ∧ antwort = wiedergabe row anfrage) := by
  cases schritt with
  | beginne s anfrage =>
    simp only [step]
    split
    · unfold beginne
      split
      · exact Or.inl rfl
      · split
        · exact Or.inr ⟨s, anfrage, _, rfl, rfl, Or.inl rfl⟩
        · exact Or.inl rfl
    · exact Or.inl rfl
  | fuehreAus s ausfuehrung =>
    simp only [step]
    split
    · next anfrage _ => exact Or.inl (fuehreAus_spec s anfrage ausfuehrung welt).2.1
    · exact Or.inl rfl
  | schreibe s now =>
    simp only [step]
    split
    · unfold schreibe
      dsimp only
      split <;> exact Or.inl rfl
    · exact Or.inl rfl
  | schliesseAb s =>
    simp only [step]
    split
    · next anfrage wirkung state =>
      unfold schliesseAb
      split
      · exact Or.inl rfl
      · next row written =>
        obtain ⟨anfrage', wirkung', state', uuid⟩ := gehalten.held s row (Table.mem_of_row? written)
        rw [state] at state'
        cases state'
        refine Or.inr ⟨s, anfrage, _, rfl, rfl, Or.inr (Or.inl ⟨row, written, ?_, uuid⟩)⟩
        show (welt.aktionen.commit s).rows = _
        rw [Table.commit, written]
        rfl
    · exact Or.inl rfl
  | verletzt s =>
    simp only [step]
    split <;> exact Or.inl rfl
  | wiederhole s =>
    simp only [step]
    split
    · next anfrage state =>
      unfold wiederhole
      split
      · next row found => exact Or.inr ⟨s, anfrage, _, rfl, rfl, Or.inr (Or.inr ⟨rfl, state, row, found, rfl⟩)⟩
      · exact Or.inl rfl
    · exact Or.inl rfl
  | abbruch s => exact Or.inl rfl
  | fremd s row wirkung =>
    simp only [step]
    split
    · unfold schreibeFremd
      split <;> exact Or.inl rfl
    · exact Or.inl rfl
  | umwelt wirkung => exact Or.inl rfl

theorem step_rows (welt : Welt σ) (schritt : Schritt σ) {row : EinheitAktion} (member : row ∈ welt.aktionen.rows) :
    row ∈ (step welt schritt).aktionen.rows := by
  have committed : ∀ s, row ∈ (welt.aktionen.commit s).rows := fun _ => List.mem_append_left _ member
  cases schritt with
  | beginne s anfrage =>
    simp only [step]
    split
    · unfold beginne
      split
      · exact member
      · split <;> exact member
    · exact member
  | fuehreAus s ausfuehrung =>
    simp only [step]
    split
    · next anfrage _ =>
      rw [(fuehreAus_spec s anfrage ausfuehrung welt).1]
      exact member
    · exact member
  | schreibe s now =>
    simp only [step]
    split
    · unfold schreibe
      dsimp only
      split
      · next aktionen written =>
        show row ∈ aktionen.rows
        rw [(Table.inserted_spec written).1]
        exact member
      · exact member
      · exact member
    · exact member
  | schliesseAb s =>
    simp only [step]
    split
    · unfold schliesseAb
      split
      · exact member
      · exact committed s
    · exact member
  | verletzt s =>
    simp only [step]
    split <;> exact member
  | wiederhole s =>
    simp only [step]
    split
    · unfold wiederhole
      split <;> exact member
    · exact member
  | abbruch s => exact member
  | fremd s other wirkung =>
    simp only [step]
    split
    · unfold schreibeFremd
      split
      · next aktionen written =>
        show row ∈ (aktionen.commit s).rows
        rw [Table.commit, (Table.inserted_spec written).1]
        exact List.mem_append_left _ member
      · exact member
    · exact member
  | umwelt wirkung => exact member

def Auftrag.key (auftrag : Auftrag) : String × Hintergrund := (auftrag.clientUuid, auftrag.art)

theorem plane_spec (endpunkt : Endpunkt) (anfrage : Anfrage) (antwort : Antwort) (code : Nat) :
    ((plane endpunkt anfrage antwort code).map Auftrag.key).Nodup ∧
      ∀ auftrag ∈ plane endpunkt anfrage antwort code, auftrag.clientUuid = anfrage.clientUuid := by
  unfold plane
  split
  · dsimp only
    split
    · refine ⟨by simp [Auftrag.key], fun auftrag member => ?_⟩
      simp only [List.singleton_append, List.mem_cons, List.not_mem_nil, or_false] at member
      rcases member with rfl | rfl <;> rfl
    · refine ⟨List.nodup_singleton _, fun auftrag member => ?_⟩
      rw [List.mem_singleton.mp member]
  · exact ⟨List.nodup_nil, fun _ member => absurd member List.not_mem_nil⟩

theorem plane_eq_nil {endpunkt : Endpunkt} (anfrage : Anfrage) (antwort : Antwort) (code : Nat)
    (leer : endpunkt.ausgefuehrt = false) : plane endpunkt anfrage antwort code = [] := by
  refine if_neg fun due => ?_
  rw [leer] at due
  exact Bool.false_ne_true due.2.2

namespace Material

/-- What holds between the steps: a job was scheduled for an id that is committed. -/
structure Gueltig (material : Material σ) : Prop where
  gehalten : material.welt.Gehalten
  geplant : ∀ auftrag ∈ material.auftraege, ∃ row ∈ material.welt.aktionen.rows, row.clientUuid = auftrag.clientUuid
  einzeln : (material.auftraege.map Auftrag.key).Nodup

variable {material : Material σ}

theorem Gueltig.setze (gueltig : material.Gueltig) (s : Nat) (endpunkt : Option Endpunkt) :
    (material.setze s endpunkt).Gueltig := ⟨gueltig.gehalten, gueltig.geplant, gueltig.einzeln⟩

theorem Gueltig.merke (gueltig : material.Gueltig) (s : Nat) (ausfuehrung : Ausfuehrung σ) :
    (material.merke s ausfuehrung).Gueltig := by
  unfold Material.merke
  split
  · exact gueltig.setze s _
  · exact gueltig

theorem Gueltig.still (gueltig : material.Gueltig) {schritt : Schritt σ}
    (still : (material.weiter schritt).auftraege = material.auftraege) : (material.weiter schritt).Gueltig := by
  refine ⟨gueltig.gehalten.step schritt, fun auftrag member => ?_, ?_⟩
  · rw [still] at member
    obtain ⟨row, inside, uuid⟩ := gueltig.geplant auftrag member
    exact ⟨row, step_rows _ schritt inside, uuid⟩
  · rw [still]
    exact gueltig.einzeln

theorem weiter_auftraege {schritt : Schritt σ} {s : Nat} {anfrage : Anfrage} {antwort : Antwort × Nat}
    (answered : (Einheit.step material.welt schritt).antworten = material.welt.antworten ++ [(anfrage, antwort)])
    (sitzung : schritt.sitzung = some s) : (material.weiter schritt).auftraege =
      material.auftraege ++ (material.endpunkte s).toList.flatMap fun endpunkt =>
        plane endpunkt anfrage antwort.1 antwort.2 := by
  unfold Material.weiter
  dsimp only
  rw [answered, List.drop_left, sitzung, Option.bind_some]
  simp only [List.flatMap_cons, List.flatMap_nil, List.append_nil]

theorem Gueltig.weiter (gueltig : material.Gueltig) {schritt : Schritt σ}
    (beginn : ∀ s anfrage, schritt = .beginne s anfrage → ∀ endpunkt ∈ material.endpunkte s, endpunkt.ausgefuehrt = false)
    (allein : ∀ s, schritt = .wiederhole s → material.verloren s = false) : (material.weiter schritt).Gueltig := by
  rcases step_antworten gueltig.gehalten schritt with none | ⟨s, anfrage, antwort, answered, sitzung, origin⟩
  · refine gueltig.still ?_
    unfold Material.weiter
    dsimp only
    rw [none, List.drop_length]
    simp
  · have auftraege := weiter_auftraege answered sitzung
    cases lokal : material.endpunkte s with
    | none =>
      refine gueltig.still ?_
      rw [auftraege, lokal]
      exact List.append_nil _
    | some endpunkt =>
      rw [lokal, Option.toList_some, List.flatMap_singleton] at auftraege
      rcases origin with begins | ⟨row, abgeschlossen⟩ | ⟨again, state, row, found, same⟩
      · refine gueltig.still ?_
        rw [auftraege, plane_eq_nil _ _ _ (beginn s anfrage begins endpunkt lokal), List.append_nil]
      · obtain ⟨nodup, uuids⟩ := plane_spec endpunkt anfrage antwort.1 antwort.2
        have fresh : ∀ other ∈ material.welt.aktionen.rows, other.clientUuid ≠ anfrage.clientUuid := by
          intro other old same
          have keys := gueltig.gehalten.sound.keys
          rw [List.nodup_append] at keys
          refine keys.2.2 _ (List.mem_map_of_mem old) _ (List.mem_map_of_mem (Table.mem_of_row? abgeschlossen.written)) ?_
          exact same.trans abgeschlossen.uuid.symm
        refine ⟨gueltig.gehalten.step schritt, fun auftrag member => ?_, ?_⟩
        · rw [auftraege] at member
          rcases List.mem_append.mp member with old | new
          · obtain ⟨other, inside, uuid⟩ := gueltig.geplant auftrag old
            exact ⟨other, step_rows _ schritt inside, uuid⟩
          · refine ⟨row, ?_, abgeschlossen.uuid.trans (uuids auftrag new).symm⟩
            show row ∈ (Einheit.step material.welt schritt).aktionen.rows
            rw [abgeschlossen.rows]
            exact List.mem_append_right _ (List.mem_singleton_self _)
        · rw [auftraege, List.map_append, List.nodup_append]
          refine ⟨gueltig.einzeln, nodup, fun key known key' isNew same => ?_⟩
          obtain ⟨auftrag, old, rfl⟩ := List.mem_map.mp known
          obtain ⟨auftrag', new, rfl⟩ := List.mem_map.mp isNew
          obtain ⟨other, inside, uuid⟩ := gueltig.geplant auftrag old
          refine fresh other inside (uuid.trans ?_)
          exact (congrArg Prod.fst same).trans (uuids auftrag' new)
      · refine gueltig.still ?_
        have kept := allein s again
        have silent : plane endpunkt anfrage antwort.1 antwort.2 = [] := by
          refine if_neg fun ⟨code, ok, ausgefuehrt⟩ => ?_
          simp [Material.verloren, lokal, state, found, ausgefuehrt, ← same, code, ok] at kept
        rw [auftraege, silent, List.append_nil]

theorem Gueltig.step (gueltig : material.Gueltig) (zug : Zug σ) (allein : material.allein zug = true) :
    (material.step zug).Gueltig := by
  cases zug with
  | material s anfrage koerper =>
    simp only [Material.step]
    split
    · refine (gueltig.setze s _).weiter (fun s' anfrage' same endpunkt isSet => ?_) fun s' same => by cases same
      cases same
      cases (Function.update_self s _ material.endpunkte).symm.trans isSet
      rfl
    · exact gueltig
  | weiter schritt =>
    cases schritt with
    | beginne s anfrage =>
      simp only [Material.step]
      split
      · refine (gueltig.setze s none).weiter (fun s' anfrage' same endpunkt isSet => ?_) fun s' same => by cases same
        cases same
        have unset : (material.setze s none).endpunkte s = none := Function.update_self ..
        rw [Option.mem_def, unset] at isSet
        cases isSet
      · exact gueltig
    | fuehreAus s ausfuehrung =>
      exact (gueltig.merke s ausfuehrung).weiter (fun _ _ same => by cases same) fun _ same => by cases same
    | wiederhole s =>
      refine gueltig.weiter (fun _ _ same => by cases same) fun s' same => ?_
      cases same
      simpa [Material.allein] using allein
    | _ => exact gueltig.weiter (fun _ _ same => by cases same) fun _ same => by cases same

end Material

/-- The jobs of a request for material are scheduled at most once, for every
id, in every run in which no request that has handed material out loses the
race for its id to a success. -/
theorem material_einmal (start : σ) (zuege : List (Zug σ))
    (allein : Meets Material.step (fun material zug => material.allein zug = true) { welt := { db := start } } zuege) :
    ((run Material.step { welt := { db := start } } zuege).auftraege.map Auftrag.key).Nodup := by
  refine (run_induction Material.Gueltig (fun _ zug gueltig ok => gueltig.step zug ok) ?_ allein).einzeln
  exact ⟨⟨Table.Sound.empty, fun _ _ none => absurd none List.not_mem_nil⟩, fun _ none => absurd none List.not_mem_nil,
    List.nodup_nil⟩

/-- Two deliveries of one request: both have seen no row and hand material out. -/
def doppelt (wiederholt : Bool) : List (Zug Nat) :=
  [.material 0 (meldung 5) {}, .material 1 (meldung 5) {},
    .weiter (.fuehreAus 0 { wirkung := (· + 1), ausgang := .antwort [("ok", .skalar (.bool true))] }),
    .weiter (.fuehreAus 1 { wirkung := (· + 1), ausgang := .antwort [("ok", .skalar (.bool true))] }),
    .weiter (.schreibe 0 0), .weiter (.schliesseAb 0), .weiter (.schreibe 1 0)] ++
    if wiederholt then [.weiter (.wiederhole 1)] else [.weiter (.abbruch 1), .material 1 (meldung 5) {}]

theorem material_einmal_nacheinander :
    ((run Material.step { welt := { db := 0 } } (doppelt false)).auftraege.map Auftrag.key).Nodup ∧
      (run Material.step { welt := { db := 0 } } (doppelt false)).auftraege.length = 1 :=
  ⟨material_einmal 0 (doppelt false) (by decide +kernel), by decide +kernel⟩

/-- The loser answers with the row of the winner, and prints a second time. -/
theorem material_doppelt : ¬ ∀ zuege : List (Zug Nat),
    ((run Material.step { welt := { db := 0 } } zuege).auftraege.map Auftrag.key).Nodup := by
  intro law
  exact absurd (law (doppelt true)) (by decide +kernel)

end Einsatzcockpit.Einheit
