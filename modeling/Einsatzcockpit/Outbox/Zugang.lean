import Einsatzcockpit.Outbox.Reihenfolge

namespace Einsatzcockpit.Outbox

open Transition

/-- A step that sends nothing, lifts no block and removes no entry. -/
structure Ruhig (w w' : Welt) : Prop where
  gesendet : w'.gesendet = w.gesendet
  terminal : w.terminal = true → w'.terminal = true
  behalten : ∀ e ∈ w.outbox, ∃ e' ∈ w'.outbox, e'.clientUuid = e.clientUuid

namespace Ruhig

variable {w w' w'' : Welt}

theorem of_same (gesendet : w'.gesendet = w.gesendet) (terminal : w.terminal = true → w'.terminal = true)
    (outbox : w'.outbox = w.outbox) : Ruhig w w' :=
  ⟨gesendet, terminal, fun e member => ⟨e, outbox ▸ member, rfl⟩⟩

theorem refl (w : Welt) : Ruhig w w := of_same rfl id rfl

theorem trans (first : Ruhig w w') (second : Ruhig w' w'') : Ruhig w w'' where
  gesendet := second.gesendet.trans first.gesendet
  terminal := second.terminal ∘ first.terminal
  behalten := by
    intro e member
    obtain ⟨e', inside, same⟩ := first.behalten e member
    obtain ⟨e'', inside', same'⟩ := second.behalten e' inside
    exact ⟨e'', inside', same'.trans same⟩

theorem setSpur (w : Welt) (i : Nat) (spur : Spur) : Ruhig w (w.setSpur i spur) := of_same rfl id rfl

theorem update {p : Eintrag → Bool} {werte : Eintrag → Eintrag} (same : ∀ e, p e = true → (werte e).clientUuid = e.clientUuid)
    (outbox : w'.outbox = Relational.update p werte w.outbox) (gesendet : w'.gesendet = w.gesendet)
    (terminal : w.terminal = true → w'.terminal = true) : Ruhig w w' where
  gesendet := gesendet
  terminal := terminal
  behalten := by
    intro e member
    refine ⟨_, outbox ▸ Relational.mem_update.mpr ⟨e, member, rfl⟩, ?_⟩
    split
    · next hit => exact same e hit
    · rfl

theorem setze (w : Welt) (clientUuid : String) (aenderung : Aenderung) : Ruhig w (w.setze clientUuid aenderung) :=
  @update w _ _ aenderung.auf (fun _ _ => rfl) rfl rfl id

theorem put (w : Welt) (eintrag : Eintrag) : Ruhig w (w.put eintrag) := by
  unfold Welt.put
  split
  · exact .update (fun e hit => (beq_iff_eq.mp hit).symm) rfl rfl id
  · exact ⟨rfl, id, fun e member => ⟨e, List.mem_append_left _ member, rfl⟩⟩

theorem foldl {α : Type} {f : Welt → α → Welt} (each : ∀ w a, Ruhig w (f w a)) (w : Welt) (list : List α) :
    Ruhig w (list.foldl f w) := by
  induction list generalizing w with
  | nil => exact .refl w
  | cons a rest ih => exact (each w a).trans (ih (f w a))

end Ruhig

section Steps

variable (w : Welt) (i : Nat) (spur : Spur)

theorem senden_ruhig (eintrag : Eintrag) : Ruhig w (w.senden i spur eintrag) := by
  unfold Welt.senden
  split <;> exact .of_same rfl id rfl

theorem weiter_ruhig (waits : spur.phase ≠ .bestaetigt) : Ruhig w (w.weiter i spur) := by
  rcases spur with ⟨_ | ⟨x, rest⟩, phase⟩
  · exact .refl w
  · cases phase with
    | bestaetigt => exact absurd rfl waits
    | bereit =>
      unfold Welt.weiter
      dsimp only
      split
      · exact .setSpur w i _
      · exact senden_ruhig w i _ x
    | senden => exact senden_ruhig w i _ x
    | lesen =>
      unfold Welt.weiter
      dsimp only
      split
      · exact .setSpur w i _
      · split
        · exact .setSpur w i _
        · split
          · exact .setSpur w i _
          · split <;> exact .setSpur w i _
    | schreibt aenderung weiter => exact (Ruhig.setze w _ _).trans (.setSpur _ i _)
    | fertig weiter => cases weiter <;> exact .of_same rfl id rfl
    | materialFehlt => exact (Ruhig.setze w _ _).trans (.setSpur _ i _)
    | foto | pruefung | unterwegs => exact .refl w

theorem fotoDatei_ruhig (lesbar : Bool) : Ruhig w (w.fotoDatei i spur lesbar) := by
  unfold Welt.fotoDatei
  split
  · split <;> exact .setSpur w i _
  · exact .refl w

theorem gescheitert_ruhig (eintrag : Eintrag) (text : String) : Ruhig w (w.gescheitert i spur eintrag text) := by
  unfold Welt.gescheitert
  split <;> exact .setSpur w i _

theorem netzfehler_ruhig (text : String) : Ruhig w (w.netzfehler i spur text) := by
  unfold Welt.netzfehler
  split
  · exact gescheitert_ruhig w i spur _ text
  · exact gescheitert_ruhig w i spur _ text
  · exact .refl w

theorem timeout_ruhig : Ruhig w (w.timeout i spur) := by
  unfold Welt.timeout
  split
  · exact gescheitert_ruhig w i spur _ _
  · exact gescheitert_ruhig w i spur _ _
  · exact gescheitert_ruhig w i spur _ _
  · exact .refl w

theorem ausfall_ruhig : Ruhig w (w.ausfall i spur) := by
  unfold Welt.ausfall
  split <;> exact .of_same rfl id rfl

theorem antwort_ruhig (antwort : Antwort) : Ruhig w (w.antwort i spur antwort) := by
  unfold Welt.antwort
  split
  · dsimp only
    split
    · exact .of_same rfl id rfl
    · split
      · exact .of_same rfl id rfl
      · exact .of_same rfl (fun _ => rfl) rfl
      · exact .of_same rfl id rfl
  · exact .refl w

theorem erfassen_ruhig (daten : List Erfassung) : Ruhig w (w.erfassen daten) := by
  unfold Welt.erfassen
  dsimp only
  split
  · exact .refl w
  · exact ⟨rfl, id, fun e member => ⟨e, List.mem_append_left _ member, rfl⟩⟩

theorem spaetesFoto_ruhig (clientUuid : String) : Ruhig w (w.spaetesFoto clientUuid) := by
  unfold Welt.spaetesFoto
  split
  · exact .setze w clientUuid _
  · exact .refl w

theorem sperre_ruhig (k : Nat) : Ruhig w (w.sperre k) := by
  unfold Welt.sperre
  split
  · exact .of_same rfl id rfl
  · next eintraege _ =>
    have written := Ruhig.foldl (fun w e => .put w (Welt.blockiert e)) { w with sperren := w.sperren.set k .fertig }
      (eintraege.filter (·.status.offen))
    have read : Ruhig w { w with sperren := w.sperren.set k .fertig } := .of_same rfl id rfl
    exact read.trans written
  · exact .refl w

end Steps

theorem anSpur_ruhig {w : Welt} {i : Nat} {aktion : Spur → Welt} (each : ∀ spur, Ruhig w (aktion spur)) :
    Ruhig w (anSpur w i aktion) := by
  unfold anSpur
  split
  · exact .refl w
  · exact each _

theorem kontext_cases (w : Welt) (i : Nat) (kontext : Kontext) :
    Ruhig w (step w (.kontext i kontext)) ∨
      ∃ rest eintrag, w.spuren[i]? = some { rest, phase := .pruefung eintrag } ∧ w.terminal = false ∧
        (step w (.kontext i kontext)).gesendet = w.gesendet ++ [eintrag] ∧
        (step w (.kontext i kontext)).terminal = false ∧ (step w (.kontext i kontext)).outbox = w.outbox := by
  simp only [step, anSpur]
  cases found : w.spuren[i]? with
  | none => exact Or.inl (.refl w)
  | some spur =>
    rcases spur with ⟨rest, phase⟩
    cases phase with
    | pruefung eintrag =>
      cases kontext with
      | beendet => exact Or.inl (.of_same rfl (fun _ => rfl) rfl)
      | frei =>
        simp only [Welt.kontext]
        split
        · exact Or.inl (.setSpur w i _)
        · next gesperrt =>
          have offen : w.terminal = false := (Bool.not_eq_true _).mp gesperrt
          exact Or.inr ⟨rest, eintrag, rfl, offen, rfl, offen, rfl⟩
    | _ => exact Or.inl (.refl w)

/-- An entry leaves the store only through `bestaetigen`. -/
theorem weiter_cases (w : Welt) (i : Nat) :
    Ruhig w (step w (.weiter i)) ∨
      ∃ x rest, w.spuren[i]? = some { rest := x :: rest, phase := .bestaetigt } ∧ w.terminal = false ∧
        (step w (.weiter i)).gesendet = w.gesendet ∧ (step w (.weiter i)).terminal = false ∧
        (step w (.weiter i)).outbox = w.outbox.filter fun e => e.clientUuid != x.clientUuid := by
  simp only [step, anSpur]
  cases found : w.spuren[i]? with
  | none => exact Or.inl (.refl w)
  | some spur =>
    by_cases waits : spur.phase = .bestaetigt
    · rcases spur with ⟨_ | ⟨x, rest⟩, phase⟩
      · exact Or.inl (.refl w)
      · cases waits
        simp only [Welt.weiter, Welt.bestaetigen]
        split
        · exact Or.inl (.setSpur w i _)
        · next removes =>
          simp only [Bool.or_eq_true, not_or, Bool.not_eq_true] at removes
          exact Or.inr ⟨x, rest, rfl, removes.1, rfl, removes.1, rfl⟩
    · exact Or.inl (weiter_ruhig w i spur waits)

theorem step_ruhig (w : Welt) {aktion : Aktion} (noKontext : ∀ i kontext, aktion ≠ .kontext i kontext)
    (noWeiter : ∀ i, aktion ≠ .weiter i) : Ruhig w (step w aktion) := by
  cases aktion with
  | kontext i kontext => exact absurd rfl (noKontext i kontext)
  | weiter i => exact absurd rfl (noWeiter i)
  | uhr | statusSpuren | fotoSpur => exact .of_same rfl id rfl
  | erfassen daten => exact erfassen_ruhig w daten
  | wiederverbunden =>
    exact @Ruhig.update w _ _ (fun e => { e with status := .ausstehend, naechsterVersuchAt := none }) (fun _ _ => rfl) rfl rfl id
  | fotoDatei i lesbar => exact anSpur_ruhig fun spur => fotoDatei_ruhig w i spur lesbar
  | antwort i antwort => exact anSpur_ruhig fun spur => antwort_ruhig w i spur antwort
  | netzfehler i text => exact anSpur_ruhig fun spur => netzfehler_ruhig w i spur text
  | timeout i => exact anSpur_ruhig fun spur => timeout_ruhig w i spur
  | ausfall i => exact anSpur_ruhig fun spur => ausfall_ruhig w i spur
  | spaetesFoto clientUuid => exact spaetesFoto_ruhig w clientUuid
  | blockiereZugang => exact .of_same rfl (fun _ => rfl) rfl
  | sperre k => exact sperre_ruhig w k

theorem step_gesperrt {w : Welt} (gesperrt : w.terminal = true) (aktion : Aktion) :
    (step w aktion).terminal = true ∧ (step w aktion).gesendet = w.gesendet := by
  have of_ruhig {w' : Welt} (ruhig : Ruhig w w') : w'.terminal = true ∧ w'.gesendet = w.gesendet :=
    ⟨ruhig.terminal gesperrt, ruhig.gesendet⟩
  cases aktion with
  | kontext i kontext =>
    rcases kontext_cases w i kontext with ruhig | ⟨_, _, _, offen, _⟩
    · exact of_ruhig ruhig
    · rw [gesperrt] at offen
      cases offen
  | weiter i =>
    rcases weiter_cases w i with ruhig | ⟨_, _, _, offen, _⟩
    · exact of_ruhig ruhig
    · rw [gesperrt] at offen
      cases offen
  | _ => exact of_ruhig (step_ruhig w nofun nofun)

theorem run_gesperrt {w : Welt} (gesperrt : w.terminal = true) (aktionen : List Aktion) :
    (run step w aktionen).gesendet = w.gesendet := by
  induction aktionen generalizing w with
  | nil => rfl
  | cons aktion rest ih =>
    obtain ⟨still, same⟩ := step_gesperrt gesperrt aktion
    exact (ih still).trans same

theorem step_ordnung {w : Welt} (ordnung : w.terminal = false → w.Ordnung) (aktion : Aktion)
    (offen : (step w aktion).terminal = false) : (step w aktion).Ordnung := by
  have wasOpen : w.terminal = false := by
    by_contra gesperrt
    rw [(step_gesperrt ((Bool.not_eq_false _).mp gesperrt) aktion).1] at offen
    cases offen
  have held := ordnung wasOpen
  have lane {i : Nat} {aktion : Spur → Welt} (each : ∀ spur, w.spuren[i]? = some spur → (aktion spur).Ordnung) :
      (anSpur w i aktion).Ordnung := by
    unfold anSpur
    split
    · exact held
    · next spur found => exact each spur found
  cases aktion with
  | uhr => exact held.daneben rfl rfl rfl (List.Subset.refl _) rfl rfl rfl
  | erfassen daten => exact erfassen_ordnung held daten
  | wiederverbunden => exact wiederverbunden_ordnung held
  | statusSpuren => exact statusSpuren_ordnung held
  | fotoSpur => exact fotoSpur_ordnung held
  | weiter i => exact lane fun spur found => weiter_ordnung held found wasOpen
  | fotoDatei i lesbar => exact lane fun spur found => fotoDatei_ordnung held found lesbar
  | kontext i kontext =>
    simp only [step, anSpur] at offen ⊢
    split
    · exact held
    · next spur found =>
      rw [found] at offen
      exact kontext_ordnung held found kontext offen
  | antwort i antwort =>
    simp only [step, anSpur] at offen ⊢
    split
    · exact held
    · next spur found =>
      rw [found] at offen
      exact antwort_ordnung held found antwort offen
  | netzfehler i text => exact lane fun spur found => netzfehler_ordnung held found text
  | timeout i => exact lane fun spur found => timeout_ordnung held found
  | ausfall i => exact lane fun spur found => ausfall_ordnung held found
  | spaetesFoto clientUuid => exact spaetesFoto_ordnung held clientUuid
  | blockiereZugang => cases offen
  | sperre k => exact sperre_ordnung held k

theorem start_ordnung (speicher : Speicher) (einheitId : Option Nat) : (speicher.start einheitId).Ordnung where
  eindeutig := speicher.eindeutig
  bekannt := fun e member => ⟨List.mem_map_of_mem member, speicher.folge e member⟩
  sperren := rfl
  laeuft := List.forall_mem_nil _
  flug := fun _ _ _ _ _ _ found => by cases found
  bearbeitung := List.forall_mem_nil _

theorem run_ordnung (speicher : Speicher) (einheitId : Option Nat) (aktionen : List Aktion) :
    (run step (speicher.start einheitId) aktionen).terminal = false →
      (run step (speicher.start einheitId) aktionen).Ordnung :=
  run_invariant (fun w : Welt => w.terminal = false → w.Ordnung) (fun _ aktion ordnung => step_ordnung ordnung aktion)
    (fun _ => start_ordnung speicher einheitId) aktionen

/-- Over every interleaving: an entry that is not a photo leaves only when no
earlier one of its dispatch, photos apart, is still to be sent; an entry is
removed only after a reply that names its action; and nothing leaves after
the access was blocked. -/
theorem outbox_reihenfolge (speicher : Speicher) (einheitId : Option Nat) (vorher : List Aktion) (aktion : Aktion) :
    let w := run step (speicher.start einheitId) vorher
    (∀ eintrag, (step w aktion).gesendet = w.gesendet ++ [eintrag] → eintrag.typ.istFoto = false →
      ∀ e ∈ w.outbox, e.typ.istFoto = false → e.dispatchId = eintrag.dispatchId → e.seq < eintrag.seq →
        e.status.offen = false) ∧
    (∀ e ∈ w.outbox, (∀ e' ∈ (step w aktion).outbox, e'.clientUuid ≠ e.clientUuid) →
      ∃ antwort, (e.clientUuid, antwort) ∈ w.antworten ∧ antwort.bestaetigt = true) ∧
    (w.terminal = true → ∀ nachher, (run step w nachher).gesendet = w.gesendet) ∧
    (∀ nachher, (run step (step w .blockiereZugang) nachher).gesendet = w.gesendet) := by
  intro w
  have ordnung : w.terminal = false → w.Ordnung := run_ordnung speicher einheitId vorher
  have silent (ruhig : Ruhig w (step w aktion)) (eintrag : Eintrag)
      (sent : (step w aktion).gesendet = w.gesendet ++ [eintrag]) : False := by
    rw [ruhig.gesendet] at sent
    exact List.cons_ne_nil _ _ (List.self_eq_append_right.mp sent)
  have kept (ruhig : Ruhig w (step w aktion)) (e : Eintrag) (member : e ∈ w.outbox)
      (gone : ∀ e' ∈ (step w aktion).outbox, e'.clientUuid ≠ e.clientUuid) : False := by
    obtain ⟨e', inside, same⟩ := ruhig.behalten e member
    exact gone e' inside same
  refine ⟨fun eintrag sent text e member textual dispatch earlier => ?_, fun e member gone => ?_, run_gesperrt, fun nachher => ?_⟩
  · have found : ∃ i kontext, aktion = .kontext i kontext := by
      by_contra none
      simp only [not_exists] at none
      by_cases goesOn : ∃ i, aktion = .weiter i
      · obtain ⟨i, rfl⟩ := goesOn
        rcases weiter_cases w i with ruhig | ⟨_, _, _, _, same, _⟩
        · exact silent ruhig eintrag sent
        · rw [same] at sent
          exact List.cons_ne_nil _ _ (List.self_eq_append_right.mp sent)
      · exact silent (step_ruhig w none (not_exists.mp goesOn)) eintrag sent
    obtain ⟨i, kontext, rfl⟩ := found
    rcases kontext_cases w i kontext with ruhig | ⟨rest, next, lane, offen, same, -, -⟩
    · exact (silent ruhig eintrag sent).elim
    · rw [same] at sent
      obtain rfl : next = eintrag := by simpa using List.append_cancel_left sent
      obtain ⟨x, later, first, gleich, -⟩ := wartet (ordnung offen) lane (by simp)
      have laeuft := (ordnung offen).laeuft _ (List.mem_of_getElem? lane)
      by_contra open_
      refine laeuft.vorn first member ⟨textual, ?_, ?_, ?_, (Bool.not_eq_false _).mp open_⟩
      · rw [← gleich.typ, text]
      · rw [dispatch, gleich.dispatchId]
      · rw [← gleich.seq]
        exact earlier
  · have found : ∃ i, aktion = .weiter i := by
      by_contra none
      simp only [not_exists] at none
      by_cases checks : ∃ i kontext, aktion = .kontext i kontext
      · obtain ⟨i, kontext, rfl⟩ := checks
        rcases kontext_cases w i kontext with ruhig | ⟨_, _, _, _, _, _, same⟩
        · exact kept ruhig e member gone
        · exact gone e (same ▸ member) rfl
      · exact kept (step_ruhig w (fun i kontext same => checks ⟨i, kontext, same⟩) none) e member gone
    obtain ⟨i, rfl⟩ := found
    rcases weiter_cases w i with ruhig | ⟨x, rest, lane, offen, -, -, same⟩
    · exact (kept ruhig e member gone).elim
    · rw [same] at gone
      obtain ⟨x', later, first, antwort, logged, taken⟩ := wartet (ordnung offen) lane (by simp)
      obtain ⟨rfl, -⟩ := List.cons.inj first
      have removed : e.clientUuid = x.clientUuid := by
        by_contra other
        exact gone e (List.mem_filter.mpr ⟨member, bne_iff_ne.mpr other⟩) rfl
      exact ⟨antwort, removed ▸ logged, taken⟩
  · exact run_gesperrt rfl nachher

def fotoDannStatus : List Aktion :=
  [.erfassen [{ clientUuid := "a", typ := .foto, dispatchId := some 7 }],
    .erfassen [{ clientUuid := "b", typ := .status, dispatchId := some 7 }],
    .statusSpuren, .weiter 0, .weiter 0]

/-- A photo waits while the status that was captured after it leaves. -/
theorem foto_bleibt_zurueck :
    let w := run step (Speicher.start { outbox := [], eindeutig := List.nodup_nil, folge := List.forall_mem_nil _ } none) fotoDannStatus
    ∃ e ∈ w.outbox, ∃ eintrag, (step w (.kontext 0 .frei)).gesendet = w.gesendet ++ [eintrag] ∧
      eintrag.typ.istFoto = false ∧ e.dispatchId = eintrag.dispatchId ∧ e.seq < eintrag.seq ∧
      e.status = .ausstehend := by
  refine ⟨{ clientUuid := "a", seq := 1, typ := .foto, dispatchId := some 7 }, by decide,
    { clientUuid := "b", seq := 2, typ := .status, dispatchId := some 7 }, ?_⟩
  decide

end Einsatzcockpit.Outbox
