import Einsatzcockpit.Serial.Records

namespace Einsatzcockpit.Serial

open Relational Transition

variable {ω : Type}

def Offen (row : AlarmIngest) : Prop := row.processStatus = .stored ∨ row.processStatus = .error

/-- The row that a worker holds is the committed one, claimed and perhaps
attempted. -/
def Phase.Passt (ingests : List AlarmIngest) : Phase ω → Prop
  | .beansprucht row => ∃ old ∈ ingests, Offen old ∧ ∃ now, row = claim now old
  | .versucht row (some _) => ∃ old ∈ ingests, Offen old ∧ ∃ now now' anlage, row = angelegt (ω := ω) now' anlage (claim now old)
  | .versucht row none => ∃ old ∈ ingests, Offen old ∧ ∃ now fehler, row = fehlgeschlagen fehler (claim now old)
  | _ => True

theorem Phase.Passt.haelt {ingests ingests' : List AlarmIngest} {phase : Phase ω} (passt : phase.Passt ingests)
    (kept : ∀ old ∈ ingests, phase.haelt old.id = true → old ∈ ingests') : phase.Passt ingests' := by
  match phase, passt with
  | .frei, _ => trivial
  | .geprueft _, _ => trivial
  | .festgeschrieben _, _ => trivial
  | .beansprucht _, ⟨old, member, found⟩ =>
    obtain ⟨offen, now, rfl⟩ := found
    exact ⟨old, kept old member (beq_self_eq_true _), offen, now, rfl⟩
  | .versucht _ (some _), ⟨old, member, found⟩ =>
    obtain ⟨offen, now, now', anlage, rfl⟩ := found
    exact ⟨old, kept old member (beq_self_eq_true _), offen, now, now', anlage, rfl⟩
  | .versucht _ none, ⟨old, member, found⟩ =>
    obtain ⟨offen, now, fehler, rfl⟩ := found
    exact ⟨old, kept old member (beq_self_eq_true _), offen, now, fehler, rfl⟩

/-- Every worker holds one row at most, and every row is held by one worker. -/
structure Sperren (arbeiter : List (Phase ω)) (ingests : List AlarmIngest) : Prop where
  passt : ∀ phase ∈ arbeiter, phase.Passt ingests
  einer : ∀ id i j : Nat, ∀ phase phase' : Phase ω, arbeiter[i]? = some phase → arbeiter[j]? = some phase' →
    phase.haelt id = true → phase'.haelt id = true → i = j

namespace Sperren

variable {arbeiter : List (Phase ω)} {ingests ingests' : List AlarmIngest} {i : Nat} {phase : Phase ω}

section

variable (sperren : Sperren arbeiter ingests)
include sperren

theorem setze (passt : phase.Passt ingests)
    (allein : ∀ id, phase.haelt id = true → ∀ j other, arbeiter[j]? = some other → other.haelt id = true → j = i) :
    Sperren (arbeiter.set i phase) ingests := by
  refine ⟨fun other member => ?_, fun id j k first second atJ atK holds holds' => ?_⟩
  · rcases List.mem_or_eq_of_mem_set member with old | rfl
    · exact sperren.passt other old
    · exact passt
  · rcases getElem?_set_cases atJ with ⟨rfl, rfl⟩ | ⟨other, before⟩
    · rcases getElem?_set_cases atK with ⟨rfl, rfl⟩ | ⟨other', before'⟩
      · rfl
      · exact (allein id holds k second before' holds').symm
    · rcases getElem?_set_cases atK with ⟨rfl, rfl⟩ | ⟨other', before'⟩
      · exact allein id holds' j first before holds
      · exact sperren.einer id j k first second before before' holds holds'

theorem lasse (passt : phase.Passt ingests) (frei : ∀ id, phase.haelt id = false) :
    Sperren (arbeiter.set i phase) ingests :=
  sperren.setze passt fun id holds => by rw [frei id] at holds; cases holds

theorem anhaengen (sub : ∀ row ∈ ingests, row ∈ ingests') :
    Sperren arbeiter ingests' :=
  ⟨fun other member => (sperren.passt other member).haelt fun old isOld _ => sub old isOld, sperren.einer⟩

end

end Sperren

/-- A row that stands for a telegram with the same number, or the same text of
the last ten minutes. -/
def Doppelt (rawHash : String → String) (t : Telegramm) (row : AlarmIngest) : Prop :=
  row.orgId = t.orgId ∧
    match t.sequence with
    | some sequence => row.gatewayId = t.gatewayId ∧ row.sequence = some sequence
    | none => row.contentHash = rawHash t.rawText ∧ t.now - minuten 10 ≤ row.receivedAt

/-- What an answer of `store_raw` promises of its row. -/
def Beantwortet (rawHash : String → String) (antwort : Telegramm × Nat × Bool) (row : AlarmIngest) : Prop :=
  row.id = antwort.2.1 ∧
    if antwort.2.2 then row.rawText = antwort.1.rawText ∧ row.rawHash = rawHash antwort.1.rawText
    else Doppelt rawHash antwort.1 row

structure Gleich (row row' : AlarmIngest) : Prop where
  id : row'.id = row.id
  orgId : row'.orgId = row.orgId
  gatewayId : row'.gatewayId = row.gatewayId
  rawText : row'.rawText = row.rawText
  rawHash : row'.rawHash = row.rawHash
  contentHash : row'.contentHash = row.contentHash
  sequence : row'.sequence = row.sequence
  receivedAt : row'.receivedAt = row.receivedAt

theorem Beantwortet.gleich {rawHash : String → String} {antwort : Telegramm × Nat × Bool} {row row' : AlarmIngest}
    (beantwortet : Beantwortet rawHash antwort row) (gleich : Gleich row row') : Beantwortet rawHash antwort row' := by
  unfold Beantwortet Doppelt at beantwortet ⊢
  rw [gleich.id, gleich.rawText, gleich.rawHash, gleich.orgId, gleich.gatewayId, gleich.sequence, gleich.contentHash,
    gleich.receivedAt]
  exact beantwortet

def Phase.meldet (ingestId : Nat) : Phase ω → Bool
  | .festgeschrieben id => id == ingestId
  | _ => false

def Welt.rufe (welt : Welt ω) (ruf : Nat × Nat) : Nat :=
  welt.onApplied.count ruf + if (welt.arbeiter[ruf.2]?).any (·.meldet ruf.1) then 1 else 0

structure Welt.Stimmt (rawHash : String → String) (welt : Welt ω) : Prop where
  nummern : Numbered AlarmIngest.id welt.ingests
  status : ∀ row ∈ welt.ingests, row.leaseUntil = none ∧ row.processStatus ≠ .processing
  sperren : Sperren welt.arbeiter welt.ingests
  antworten : ∀ antwort ∈ welt.antworten, ∃ row ∈ welt.ingests, Beantwortet rawHash antwort row
  angewandt : ∀ id, id ∈ welt.angewandt.map (·.1) ↔ ∃ row ∈ welt.ingests, row.id = id ∧ row.processStatus = .applied
  einmal : (welt.angewandt.map (·.1)).Nodup
  wirkungen : welt.wirkungen.map (·.1) = welt.angewandt.map (·.1)
  gemeldet : ∀ ruf ∈ welt.onApplied, ruf.1 ∈ welt.angewandt.map (·.1)
  rufe : ∀ ruf ∈ welt.angewandt, welt.rufe ruf ≤ 1

section Schritte

variable {rawHash : String → String} {welt : Welt ω} {i : Nat} {phase : Phase ω}

theorem rufe_setze {ruf : Nat × Nat} (meldet : ∀ id, phase.meldet id = false) : (welt.setze i phase).rufe ruf ≤ welt.rufe ruf := by
  unfold Welt.rufe
  refine Nat.add_le_add_left ?_ _
  have less : ((welt.setze i phase).arbeiter[ruf.2]?).any (·.meldet ruf.1) = true →
      (welt.arbeiter[ruf.2]?).any (·.meldet ruf.1) = true := by
    intro waits
    obtain ⟨other, found, meldet'⟩ := (Option.any_eq_true _ _).mp waits
    rcases getElem?_set_cases found with ⟨-, rfl⟩ | ⟨-, before⟩
    · rw [meldet] at meldet'
      cases meldet'
    · rw [before]
      exact meldet'
  split
  · next waits => rw [if_pos (less waits)]
  · exact Nat.zero_le _

section

variable (stimmt : welt.Stimmt rawHash) (passt : phase.Passt welt.ingests) (meldet : ∀ id, phase.meldet id = false)
include stimmt passt meldet

theorem Welt.Stimmt.setze
    (allein : ∀ id, phase.haelt id = true → ∀ j other, welt.arbeiter[j]? = some other → other.haelt id = true → j = i) :
    (welt.setze i phase).Stimmt rawHash :=
  ⟨stimmt.nummern, stimmt.status, stimmt.sperren.setze passt allein, stimmt.antworten, stimmt.angewandt, stimmt.einmal,
    stimmt.wirkungen, stimmt.gemeldet, fun ruf member => (rufe_setze meldet).trans (stimmt.rufe ruf member)⟩

theorem Welt.Stimmt.lasse (frei : ∀ id, phase.haelt id = false) : (welt.setze i phase).Stimmt rawHash :=
  stimmt.setze passt meldet fun id holds => by rw [frei id] at holds; cases holds

end

variable {row : AlarmIngest} {now : Zeit} {ingestId : Nat}

theorem Welt.Stimmt.antworte (stimmt : welt.Stimmt rawHash) {antwort : Telegramm × Nat × Bool}
    (member : row ∈ welt.ingests) (beantwortet : Beantwortet rawHash antwort row) :
    Welt.Stimmt rawHash { welt with antworten := welt.antworten ++ [antwort] } := by
  refine ⟨stimmt.nummern, stimmt.status, stimmt.sperren, fun other inside => ?_, stimmt.angewandt, stimmt.einmal,
    stimmt.wirkungen, stimmt.gemeldet, stimmt.rufe⟩
  rcases List.mem_append.mp inside with old | new
  · exact stimmt.antworten other old
  · rw [List.mem_singleton.mp new]
    exact ⟨row, member, beantwortet⟩

theorem findDuplicate_doppelt {ingests : List AlarmIngest} {t : Telegramm}
    (found : findDuplicate rawHash ingests t = some row) : row ∈ ingests ∧ Beantwortet rawHash (t, row.id, false) row := by
  unfold findDuplicate at found
  split at found
  · next sequence isSequence =>
    have holds := List.find?_some found
    simp only [Bool.and_eq_true, beq_iff_eq] at holds
    refine ⟨List.mem_of_find?_eq_some found, rfl, ?_⟩
    simp only [Bool.false_eq_true, if_false, Doppelt, isSequence]
    exact ⟨holds.1.1, holds.1.2, holds.2.trans isSequence⟩
  · next none =>
    have holds := List.find?_some found
    simp only [Bool.and_eq_true, beq_iff_eq, decide_eq_true_eq] at holds
    refine ⟨List.mem_of_find?_eq_some found, rfl, ?_⟩
    simp only [Bool.false_eq_true, if_false, Doppelt, none]
    exact ⟨holds.1.1, holds.1.2, holds.2⟩

theorem pruefe_stimmt (stimmt : welt.Stimmt rawHash) (t : Telegramm) : (pruefe rawHash welt i t).Stimmt rawHash := by
  unfold pruefe
  split
  · next row found =>
    obtain ⟨member, beantwortet⟩ := findDuplicate_doppelt found
    exact stimmt.antworte member beantwortet
  · exact stimmt.lasse trivial (fun _ => rfl) fun _ => rfl

theorem einfuege_stimmt (stimmt : welt.Stimmt rawHash) (t : Telegramm) : (einfuege rawHash welt i t).Stimmt rawHash := by
  have frei : (welt.setze i .frei).Stimmt rawHash := stimmt.lasse trivial (fun _ => rfl) fun _ => rfl
  unfold einfuege
  dsimp only
  split
  · split
    · next row found =>
      obtain ⟨member, beantwortet⟩ := findDuplicate_doppelt found
      exact frei.antworte member beantwortet
    · exact frei
  · have status : (neuerIngest rawHash (welt.ingests.length + 1) t).processStatus ≠ .applied ∧
        (neuerIngest rawHash (welt.ingests.length + 1) t).processStatus ≠ .processing := by
      unfold neuerIngest
      cases t.logged <;> exact ⟨ProcessStatus.noConfusion, ProcessStatus.noConfusion⟩
    have inserted : Welt.Stimmt rawHash { welt.setze i .frei with
        ingests := welt.ingests ++ [neuerIngest rawHash (welt.ingests.length + 1) t] } := by
      refine ⟨frei.nummern.append rfl, fun row member => ?_, frei.sperren.anhaengen fun row => List.mem_append_left _,
        fun antwort inside => ?_, fun id => (frei.angewandt id).trans ⟨?_, ?_⟩, frei.einmal, frei.wirkungen,
        frei.gemeldet, frei.rufe⟩
      · rcases List.mem_append.mp member with old | new
        · exact stimmt.status row old
        · rw [List.mem_singleton.mp new]
          exact ⟨rfl, status.2⟩
      · obtain ⟨row, member, beantwortet⟩ := stimmt.antworten antwort inside
        exact ⟨row, List.mem_append_left _ member, beantwortet⟩
      · rintro ⟨row, member, isId, applied⟩
        exact ⟨row, List.mem_append_left _ member, isId, applied⟩
      · rintro ⟨row, member, isId, applied⟩
        rcases List.mem_append.mp member with old | new
        · exact ⟨row, old, isId, applied⟩
        · rw [List.mem_singleton.mp new] at applied
          exact absurd applied status.1
    exact inserted.antworte (List.mem_append_right _ (List.mem_singleton_self _)) ⟨rfl, rfl, rfl⟩

theorem beanspruchbar_offen (status : row.processStatus ≠ .processing) :
    beanspruchbar now row = true ↔ Offen row := by
  unfold beanspruchbar Offen
  cases isStatus : row.processStatus with
  | processing => exact absurd isStatus status
  | stored => simp
  | error => simp
  | applied => simp
  | logged => simp

section

variable (stimmt : welt.Stimmt rawHash)
include stimmt

theorem beanspruche_stimmt {orgId : Option Nat} {claimFilter : AlarmIngest → Bool} (frei : welt.gesperrt ingestId = false) :
    (beanspruche welt i ingestId orgId claimFilter now).Stimmt rawHash := by
  unfold beanspruche
  split
  · exact stimmt
  · next row found =>
    have member := List.mem_of_find?_eq_some found
    have isId : row.id = ingestId := by simpa using List.find?_some found
    split
    · next holds =>
      simp only [Bool.and_eq_true] at holds
      have offen := (beanspruchbar_offen (stimmt.status row member).2).mp holds.1.2
      refine stimmt.setze ⟨row, member, offen, now, rfl⟩ (fun _ => rfl) fun id holds' j other atJ held => ?_
      obtain rfl : row.id = id := beq_iff_eq.mp holds'
      have free := List.any_eq_false.mp frei other (List.mem_of_getElem? atJ)
      rw [← isId] at free
      exact absurd held free
    · exact stimmt

theorem verarbeite_stimmt {ergebnis : Except String (Anlage ω)} (at_ : welt.arbeiter[i]? = some (.beansprucht row)) :
    (verarbeite welt i row ergebnis now).Stimmt rawHash := by
  obtain ⟨old, member, offen, now', rfl⟩ := stimmt.sperren.passt _ (List.mem_of_getElem? at_)
  have allein : ∀ id, (old.id == id) = true → ∀ j other, welt.arbeiter[j]? = some other → other.haelt id = true → j = i :=
    fun id same j other atJ held => stimmt.sperren.einer id j i other _ atJ at_ held same
  unfold verarbeite
  cases ergebnis with
  | ok anlage => exact stimmt.setze ⟨old, member, offen, now', now, anlage, rfl⟩ (fun _ => rfl) allein
  | error fehler => exact stimmt.setze ⟨old, member, offen, now', fehler, rfl⟩ (fun _ => rfl) allein

theorem versucht_old {wirkung : Option ω}
    (at_ : welt.arbeiter[i]? = some (.versucht row wirkung)) :
    ∃ old ∈ welt.ingests, Offen old ∧ Gleich old (abgeschlossen row) ∧
      (abgeschlossen row).processStatus = if wirkung.isSome then .applied else .error := by
  have passt := stimmt.sperren.passt _ (List.mem_of_getElem? at_)
  cases wirkung with
  | some w =>
    obtain ⟨old, member, offen, now, now', anlage, rfl⟩ := passt
    exact ⟨old, member, offen, ⟨rfl, rfl, rfl, rfl, rfl, rfl, rfl, rfl⟩, rfl⟩
  | none =>
    obtain ⟨old, member, offen, now, fehler, rfl⟩ := passt
    exact ⟨old, member, offen, ⟨rfl, rfl, rfl, rfl, rfl, rfl, rfl, rfl⟩, rfl⟩

end

theorem rufe_festgeschrieben {ruf : Nat × Nat} (other : ruf.1 ≠ ingestId) :
    (welt.setze i (.festgeschrieben ingestId)).rufe ruf ≤ welt.rufe ruf := by
  unfold Welt.rufe
  refine Nat.add_le_add_left ?_ _
  have less : ((welt.setze i (.festgeschrieben ingestId)).arbeiter[ruf.2]?).any (·.meldet ruf.1) = true →
      (welt.arbeiter[ruf.2]?).any (·.meldet ruf.1) = true := by
    intro waits
    obtain ⟨phase, found, meldet⟩ := (Option.any_eq_true _ _).mp waits
    rcases getElem?_set_cases found with ⟨-, rfl⟩ | ⟨-, before⟩
    · exact absurd (beq_iff_eq.mp meldet).symm other
    · rw [before]
      exact meldet
  split
  · next waits => rw [if_pos (less waits)]
  · exact Nat.zero_le _

section

variable (stimmt : welt.Stimmt rawHash)
include stimmt

theorem commit_stimmt {wirkung : Option ω}
    (at_ : welt.arbeiter[i]? = some (.versucht row wirkung)) : (commit welt i row wirkung).Stimmt rawHash := by
  obtain ⟨old, member, offen, gleich, status⟩ := versucht_old stimmt at_
  have isId : old.id = row.id := gleich.id.symm
  have rows : ∀ r, r ∈ update (fun other => other.id == row.id) (fun _ => abgeschlossen row) welt.ingests ↔
      r = abgeschlossen row ∨ r ∈ welt.ingests ∧ r.id ≠ row.id := by
    intro r
    rw [mem_update]
    constructor
    · rintro ⟨other, isOther, rfl⟩
      split
      · exact Or.inl rfl
      · next missed => exact Or.inr ⟨isOther, fun same => missed (beq_iff_eq.mpr same)⟩
    · rintro (rfl | ⟨isRow, differs⟩)
      · exact ⟨old, member, by rw [if_pos (beq_iff_eq.mpr isId)]⟩
      · exact ⟨r, isRow, by rw [if_neg fun same => differs (beq_iff_eq.mp same)]⟩
  have nummern : Numbered AlarmIngest.id
      (update (fun other => other.id == row.id) (fun _ => abgeschlossen row) welt.ingests) :=
    stimmt.nummern.of_map (map_update_key AlarmIngest.id (abgeschlossen row) welt.ingests)
  have sperren : Sperren (welt.arbeiter.set i (.festgeschrieben row.id))
      (update (fun other => other.id == row.id) (fun _ => abgeschlossen row) welt.ingests) := by
    have free : Sperren (welt.arbeiter.set i (.festgeschrieben row.id)) welt.ingests :=
      stimmt.sperren.lasse trivial fun _ => rfl
    refine ⟨fun phase isPhase => ?_, free.einer⟩
    obtain ⟨j, atJ⟩ := List.getElem?_of_mem isPhase
    refine (free.passt phase isPhase).haelt fun other isOther holds => (rows other).mpr (Or.inr ⟨isOther, fun same => ?_⟩)
    rcases getElem?_set_cases atJ with ⟨-, rfl⟩ | ⟨differs, before⟩
    · cases holds
    · exact differs (stimmt.sperren.einer row.id j i phase _ before at_ (same ▸ holds) (beq_self_eq_true _))
  have antworten : ∀ antwort ∈ welt.antworten, ∃ r ∈ update (fun other => other.id == row.id)
      (fun _ => abgeschlossen row) welt.ingests, Beantwortet rawHash antwort r := by
    intro antwort inside
    obtain ⟨r, isRow, beantwortet⟩ := stimmt.antworten antwort inside
    by_cases same : r.id = row.id
    · obtain rfl := stimmt.nummern.inj isRow member (same.trans isId.symm)
      exact ⟨_, (rows _).mpr (Or.inl rfl), beantwortet.gleich gleich⟩
    · exact ⟨r, (rows r).mpr (Or.inr ⟨isRow, same⟩), beantwortet⟩
  -- nobody has applied the row before
  have fresh : row.id ∉ welt.angewandt.map (·.1) := by
    intro applied
    obtain ⟨r, isRow, same, isApplied⟩ := (stimmt.angewandt row.id).mp applied
    obtain rfl := stimmt.nummern.inj isRow member (same.trans isId.symm)
    rcases offen with stored | error
    · rw [stored] at isApplied
      cases isApplied
    · rw [error] at isApplied
      cases isApplied
  have andere : ∀ ruf ∈ welt.angewandt, ruf.1 ≠ row.id := fun ruf inside same =>
    fresh (List.mem_map.mpr ⟨ruf, inside, same⟩)
  have bleibt : ∀ ruf ∈ welt.angewandt, (welt.setze i (.festgeschrieben row.id)).rufe ruf ≤ 1 := fun ruf inside =>
    (rufe_festgeschrieben (andere ruf inside)).trans (stimmt.rufe ruf inside)
  have kept : ∀ r ∈ update (fun other => other.id == row.id) (fun _ => abgeschlossen row) welt.ingests,
      r.leaseUntil = none ∧ r.processStatus ≠ .processing := by
    intro r isRow
    rcases (rows r).mp isRow with rfl | ⟨before, -⟩
    · refine ⟨rfl, ?_⟩
      rw [status]
      split <;> exact ProcessStatus.noConfusion
    · exact stimmt.status r before
  have vorher : ∀ id, id ∈ welt.angewandt.map (·.1) ↔
      ∃ r ∈ welt.ingests, r.id ≠ row.id ∧ r.id = id ∧ r.processStatus = .applied := by
    refine fun id => (stimmt.angewandt id).trans (exists_congr fun r => and_congr_right fun isRow => ?_)
    refine ⟨fun ⟨same, applied⟩ => ⟨fun atRow => fresh ?_, same, applied⟩, fun ⟨_, same, applied⟩ => ⟨same, applied⟩⟩
    exact (stimmt.angewandt row.id).mpr ⟨r, isRow, atRow, applied⟩
  cases wirkung with
  | none =>
    refine ⟨nummern, kept, sperren, antworten, fun id => (vorher id).trans ⟨?_, ?_⟩, stimmt.einmal, stimmt.wirkungen,
      stimmt.gemeldet, bleibt⟩
    · rintro ⟨r, isRow, differs, found⟩
      exact ⟨r, (rows r).mpr (Or.inr ⟨isRow, differs⟩), found⟩
    · rintro ⟨r, isRow, isR, applied⟩
      rcases (rows r).mp isRow with rfl | ⟨before, differs⟩
      · rw [status] at applied
        cases applied
      · exact ⟨r, before, differs, isR, applied⟩
  | some w =>
    refine ⟨nummern, kept, sperren, antworten, fun id => ?_, ?_, ?_, fun ruf inside => ?_, fun ruf inside => ?_⟩
    · show id ∈ (welt.angewandt ++ [(row.id, i)]).map (·.1) ↔ _
      rw [List.map_append, List.mem_append, vorher, List.map_singleton, List.mem_singleton]
      constructor
      · rintro (⟨r, isRow, differs, found⟩ | rfl)
        · exact ⟨r, (rows r).mpr (Or.inr ⟨isRow, differs⟩), found⟩
        · exact ⟨_, (rows _).mpr (Or.inl rfl), rfl, status⟩
      · rintro ⟨r, isRow, isR, applied⟩
        rcases (rows r).mp isRow with rfl | ⟨before, differs⟩
        · exact Or.inr isR.symm
        · exact Or.inl ⟨r, before, differs, isR, applied⟩
    · simp only [commit, List.map_append, List.map_singleton]
      refine List.nodup_append'.mpr ⟨stimmt.einmal, List.nodup_singleton _, ?_⟩
      rw [List.disjoint_singleton]
      exact fresh
    · simp only [commit, List.map_append, List.map_singleton]
      exact congrArg (· ++ [row.id]) stimmt.wirkungen
    · simp only [commit, List.map_append]
      exact List.mem_append_left _ (stimmt.gemeldet ruf inside)
    · rcases List.mem_append.mp inside with old' | new
      · exact bleibt ruf old'
      · obtain rfl := List.mem_singleton.mp new
        have none : welt.onApplied.count (row.id, i) = 0 :=
          List.count_eq_zero.mpr fun called => fresh (stimmt.gemeldet _ called)
        show (welt.setze i (.festgeschrieben row.id)).rufe (row.id, i) ≤ 1
        unfold Welt.rufe Welt.setze
        rw [none]
        split <;> omega

theorem melde_stimmt
    (at_ : welt.arbeiter[i]? = some (.festgeschrieben ingestId)) : (melde welt i ingestId).Stimmt rawHash := by
  have frei : (welt.setze i .frei).Stimmt rawHash := stimmt.lasse trivial (fun _ => rfl) fun _ => rfl
  unfold melde
  dsimp only
  split
  · next applied =>
    obtain ⟨row, member, holds⟩ := List.any_eq_true.mp applied
    simp only [Bool.and_eq_true, beq_iff_eq] at holds
    refine ⟨frei.nummern, frei.status, frei.sperren, frei.antworten, frei.angewandt, frei.einmal, frei.wirkungen,
      fun ruf inside => ?_, fun ruf inside => ?_⟩
    · rcases List.mem_append.mp inside with old | new
      · exact stimmt.gemeldet ruf old
      · rw [List.mem_singleton.mp new]
        exact (stimmt.angewandt ingestId).mpr ⟨row, member, holds⟩
    · by_cases same : ruf = (ingestId, i)
      · subst same
        have before := stimmt.rufe (ingestId, i) inside
        have inside' : i < welt.arbeiter.length := (List.getElem?_eq_some_iff.mp at_).1
        unfold Welt.rufe at before ⊢
        rw [at_, Option.any_some, if_pos (show Phase.meldet (ω := ω) ingestId (.festgeschrieben ingestId) = true from
          beq_self_eq_true _)] at before
        simp only [Welt.setze, List.count_append, List.count_singleton_self, List.getElem?_set_self inside', Option.any_some,
          Phase.meldet, Bool.false_eq_true, if_false]
        omega
      · have before := frei.rufe ruf inside
        unfold Welt.rufe at before ⊢
        simp only [List.count_append, List.count_singleton, beq_iff_eq, Ne.symm same, if_false] at before ⊢
        exact before
  · exact frei

theorem step_stimmt (aktion : Aktion ω) : (step rawHash welt aktion).Stimmt rawHash := by
  cases aktion with
  | pruefe j t =>
    simp only [step]
    split
    · exact pruefe_stimmt stimmt t
    · exact stimmt
  | einfuege j =>
    simp only [step]
    split
    · next t _ => exact einfuege_stimmt stimmt t
    · exact stimmt
  | beanspruche j ingestId orgId claimFilter now =>
    simp only [step]
    split
    · next frei => exact beanspruche_stimmt stimmt frei
    · exact stimmt
  | verarbeite j ergebnis now =>
    simp only [step]
    split
    · next row at_ => exact verarbeite_stimmt stimmt at_
    · exact stimmt
  | commit j =>
    simp only [step]
    split
    · next row wirkung at_ => exact commit_stimmt stimmt at_
    · exact stimmt
  | melde j =>
    simp only [step]
    split
    · next ingestId at_ => exact melde_stimmt stimmt at_
    · exact stimmt
  | stirb j => exact stimmt.lasse trivial (fun _ => rfl) fun _ => rfl

end

end Schritte

section Lauf

variable {rawHash : String → String} {welt : Welt ω}

theorem start_stimmt (n : Nat) : Welt.Stimmt (ω := ω) rawHash { arbeiter := List.replicate n .frei } := by
  have frei : ∀ phase ∈ List.replicate n (Phase.frei (ω := ω)), phase = .frei := fun _ member => List.eq_of_mem_replicate member
  refine ⟨.nil, List.forall_mem_nil _, ⟨fun phase member => ?_, fun id j k first second atJ _ holds _ => ?_⟩,
    List.forall_mem_nil _, fun id => ?_, List.nodup_nil, rfl, List.forall_mem_nil _, List.forall_mem_nil _⟩
  · rw [frei phase member]
    trivial
  · rw [frei first (List.mem_of_getElem? atJ)] at holds
    cases holds
  · simp

theorem fehlversuch (stimmt : welt.Stimmt rawHash) {i : Nat} {row : AlarmIngest}
    (at_ : welt.arbeiter[i]? = some (.versucht row none)) :
    ∃ old ∈ welt.ingests, ∃ now fehler, step rawHash welt (.commit i) =
      { welt.setze i (.festgeschrieben old.id) with
        ingests := update (fun other => other.id == old.id) (fun _ => { old with
          processStatus := .error
          processError := some fehler
          processAttempts := old.processAttempts + 1
          parsedAt := some now }) welt.ingests } := by
  obtain ⟨old, member, -, now, fehler, rfl⟩ := stimmt.sperren.passt _ (List.mem_of_getElem? at_)
  refine ⟨old, member, now, fehler, ?_⟩
  have unlocked := (stimmt.status old member).1
  have same : abgeschlossen (fehlgeschlagen fehler (claim now old)) = { old with
      processStatus := .error
      processError := some fehler
      processAttempts := old.processAttempts + 1
      parsedAt := some now } := by
    unfold abgeschlossen fehlgeschlagen claim
    rw [← unlocked]
  simp only [step, at_, commit, same]
  rfl

theorem wartend (stimmt : welt.Stimmt rawHash) {row : AlarmIngest} (member : row ∈ welt.ingests)
    (applied : row.processStatus ≠ .applied) (logged : row.processStatus ≠ .logged) (now : Zeit) :
    row.leaseUntil = none ∧ beanspruchbar now row = true ∧
      ∀ i : Nat, welt.arbeiter[i]? = some .frei → welt.gesperrt row.id = false → keineAlarmquelle row = false →
        step rawHash welt (.beanspruche i row.id none (fun _ => true) now) = welt.setze i (.beansprucht (claim now row)) := by
  obtain ⟨unlocked, processing⟩ := stimmt.status row member
  have claimable : beanspruchbar now row = true := by
    refine (beanspruchbar_offen processing).mpr ?_
    unfold Offen
    cases isStatus : row.processStatus with
    | stored => exact Or.inl rfl
    | error => exact Or.inr rfl
    | processing => exact absurd isStatus processing
    | applied => exact absurd isStatus applied
    | logged => exact absurd isStatus logged
  refine ⟨unlocked, claimable, fun i frei free quelle => ?_⟩
  have found : welt.ingests.find? (fun other => other.id == row.id) = some row := stimmt.nummern.find?_of_mem member
  simp [step, frei, free, beanspruche, found, quelle, claimable]

end Lauf

/-- Whatever the workers do, and wherever they fail: an answer of `store_raw`
stands for a stored row; a row is applied once and its effect committed with it;
its worker calls `on_applied` once at most; a failed attempt leaves the row
waiting, and nobody keeps a waiting row. -/
theorem alarme_einmal (rawHash : String → String) (n : Nat) (aktionen : List (Aktion ω)) :
    let welt := run (step rawHash) { arbeiter := List.replicate n .frei } aktionen
    (∀ antwort ∈ welt.antworten, ∃ row ∈ welt.ingests, Beantwortet rawHash antwort row) ∧
    ((welt.angewandt.map (·.1)).Nodup ∧ welt.wirkungen.map (·.1) = welt.angewandt.map (·.1) ∧
      ∀ id, id ∈ welt.angewandt.map (·.1) ↔ ∃ row ∈ welt.ingests, row.id = id ∧ row.processStatus = .applied) ∧
    (∀ ruf ∈ welt.angewandt, welt.onApplied.count ruf ≤ 1) ∧
    (∀ (i : Nat) (row : AlarmIngest), welt.arbeiter[i]? = some (.versucht row none) →
      ∃ old ∈ welt.ingests, ∃ now fehler, step rawHash welt (.commit i) =
        { welt.setze i (.festgeschrieben old.id) with
          ingests := update (fun other => other.id == old.id) (fun _ => { old with
            processStatus := .error
            processError := some fehler
            processAttempts := old.processAttempts + 1
            parsedAt := some now }) welt.ingests }) ∧
    ∀ row ∈ welt.ingests, row.processStatus ≠ .applied → row.processStatus ≠ .logged → ∀ now,
      row.leaseUntil = none ∧ beanspruchbar now row = true ∧
        ∀ i : Nat, welt.arbeiter[i]? = some .frei → welt.gesperrt row.id = false → keineAlarmquelle row = false →
          step rawHash welt (.beanspruche i row.id none (fun _ => true) now) =
            welt.setze i (.beansprucht (claim now row)) := by
  intro welt
  have stimmt : welt.Stimmt rawHash :=
    run_invariant (Welt.Stimmt rawHash) (fun _ aktion held => step_stimmt held aktion) (start_stimmt n) aktionen
  refine ⟨stimmt.antworten, ⟨stimmt.einmal, stimmt.wirkungen, stimmt.angewandt⟩, fun ruf inside => ?_,
    fun i row at_ => fehlversuch stimmt at_, fun row member applied logged now => wartend stimmt member applied logged now⟩
  exact (Nat.le_add_right _ _).trans (stimmt.rufe ruf inside)

def telegramm (text : String) : Telegramm := { orgId := 1, gatewayId := 1, rawText := text, sequence := some 7, now := 0 }

def lesung : Lesung :=
  { parsed := none, parseStatus := "parsed", parserVersion := none, leitstellennummer := none, processError := none }

/-- A number that is used again hides the second telegram; a failed attempt also
leaves the time of its claim; and its worker reports a row that another worker
has applied before it looks. -/
theorem alarme_einmal_verfehlt :
    let gespeichert : Welt Unit := run (step id) { arbeiter := [.frei, .frei] }
      [.pruefe 0 (telegramm "Brand"), .einfuege 0, .pruefe 0 (telegramm "Unfall")]
    let gescheitert := run (step id) gespeichert
      [.beanspruche 0 1 none (fun _ => true) 5, .verarbeite 0 (.error "Datenbank") 6, .commit 0]
    let gemeldet := run (step id) gescheitert
      [.beanspruche 1 1 none (fun _ => true) 7, .verarbeite 1 (.ok { incident := some (3, "created"), lesung, wirkung := () }) 8,
        .commit 1, .melde 1, .melde 0]
    (∃ antwort ∈ gespeichert.antworten, ∀ row ∈ gespeichert.ingests, row.rawText ≠ antwort.1.rawText) ∧
      gescheitert.ingests.map (fun row => (row.processStatus, row.parsedAt)) = [(.error, some 5)] ∧
      gemeldet.angewandt = [(1, 1)] ∧ gemeldet.onApplied = [(1, 1), (1, 0)] := by
  decide +kernel

end Einsatzcockpit.Serial
