import Einsatzcockpit.Outbox.Senden

namespace Einsatzcockpit.Outbox

open Transition

structure Gleich (e e' : Eintrag) : Prop where
  clientUuid : e'.clientUuid = e.clientUuid
  seq : e'.seq = e.seq
  typ : e'.typ = e.typ
  dispatchId : e'.dispatchId = e.dispatchId

theorem Gleich.refl (e : Eintrag) : Gleich e e := ⟨rfl, rfl, rfl, rfl⟩

theorem Gleich.trans {a b c : Eintrag} (first : Gleich a b) (second : Gleich b c) : Gleich a c :=
  ⟨second.clientUuid.trans first.clientUuid, second.seq.trans first.seq, second.typ.trans first.typ,
    second.dispatchId.trans first.dispatchId⟩

/-- `e` has to be over before `x` is sent: an entry of the same dispatch that
was captured earlier and is still to be sent. Photos have a lane of their own. -/
structure Vor (e x : Eintrag) : Prop where
  text : e.typ.istFoto = false
  textX : x.typ.istFoto = false
  dispatchId : e.dispatchId = x.dispatchId
  seq : e.seq < x.seq
  offen : e.status.offen = true

/-- The entry of a running `senden`. -/
def Spur.inFlug (spur : Spur) : Option Eintrag :=
  match spur.phase with
  | .bereit | .senden | .materialFehlt => none
  | _ => spur.rest.head?

/-- No entry but a photo comes back: an open row was open before, or has just
been captured, and an untouched row stays open. -/
structure Fort (beruehrt : String → Prop) (w w' : Welt) : Prop where
  zeilen : ∀ e' ∈ w'.outbox,
    (∃ e ∈ w.outbox, Gleich e e' ∧ (e.typ.istFoto = false → (e'.status.offen = true → e.status.offen = true) ∧
      (¬ beruehrt e.clientUuid → e.status.offen = true → e'.status.offen = true))) ∨
      e'.clientUuid ∉ w.vergeben ∧ w.seq < e'.seq
  vergeben : w.vergeben ⊆ w'.vergeben
  seq : w.seq ≤ w'.seq
  antworten : w.antworten ⊆ w'.antworten

variable {w : Welt} {e : Eintrag}

theorem Fort.of_same {beruehrt : String → Prop} {w' : Welt} (outbox : w'.outbox = w.outbox)
    (vergeben : w'.vergeben = w.vergeben) (seq : w'.seq = w.seq) (antworten : w.antworten ⊆ w'.antworten) :
    Fort beruehrt w w' where
  zeilen := fun e member => Or.inl ⟨e, outbox ▸ member, .refl e, fun _ => ⟨id, fun _ => id⟩⟩
  vergeben := vergeben ▸ List.Subset.refl _
  seq := seq.ge
  antworten := antworten

def Offen (w : Welt) (x : Eintrag) : Prop :=
  ∀ e ∈ w.outbox, e.clientUuid = x.clientUuid → e.typ.istFoto = false → e.status.offen = true

def Vorbei (w : Welt) (x : Eintrag) : Prop :=
  ∀ e ∈ w.outbox, e.clientUuid = x.clientUuid → e.typ.istFoto = false → e.status.offen = false

def Phase.Passt (w : Welt) (x : Eintrag) : Phase → Prop
  | .foto eintrag | .pruefung eintrag | .unterwegs eintrag => Gleich x eintrag ∧ Offen w x
  | .schreibt aenderung weiter => (weiter = true → aenderung.status.offen = false) ∧ Offen w x
  | .bestaetigt => ∃ antwort, (x.clientUuid, antwort) ∈ w.antworten ∧ antwort.bestaetigt = true
  | .fertig true => Vorbei w x
  | .materialFehlt => x.typ.istFoto = true
  | .fertig false | .bereit | .senden | .lesen => True

/-- A lane holds every open entry that precedes one of its own. -/
structure Spur.Laeuft (w : Welt) (spur : Spur) : Prop where
  sortiert : spur.rest.Pairwise fun a b => a.seq ≤ b.seq
  bekannt : ∀ x ∈ spur.rest, x.clientUuid ∈ w.vergeben ∧ x.seq ≤ w.seq
  gleich : ∀ x ∈ spur.rest, ∀ e ∈ w.outbox, e.clientUuid = x.clientUuid → Gleich x e
  voll : ∀ x ∈ spur.rest, ∀ e ∈ w.outbox, Vor e x → ∃ y ∈ spur.rest, e.clientUuid = y.clientUuid
  belegt : spur.rest = [] → spur.phase = .bereit
  passt : ∀ x, spur.rest.head? = some x → spur.phase.Passt w x

namespace Spur.Laeuft

variable {beruehrt : String → Prop} {w w' : Welt} {spur : Spur}

theorem leer (w : Welt) : Spur.Laeuft w { rest := [] } where
  sortiert := .nil
  bekannt := List.forall_mem_nil _
  gleich := List.forall_mem_nil _
  voll := List.forall_mem_nil _
  belegt := fun _ => rfl
  passt := fun _ none => by cases none

variable {x : Eintrag}

section

variable (laeuft : spur.Laeuft w)
include laeuft

theorem setPhase {phase : Phase} (head : spur.rest.head? = some x)
    (passt : phase.Passt w x) : Spur.Laeuft w { spur with phase } where
  sortiert := laeuft.sortiert
  bekannt := laeuft.bekannt
  gleich := laeuft.gleich
  voll := laeuft.voll
  belegt := fun none => by
    rw [show spur.rest = [] from none] at head
    cases head
  passt := fun y isHead => Option.some.inj (head.symm.trans isHead) ▸ passt

theorem passt_fort (fort : Fort beruehrt w w')
    (head : spur.rest.head? = some x) {phase : Phase} (passt : phase.Passt w x)
    (frei : ¬ beruehrt x.clientUuid ∨ phase = .materialFehlt ∨ phase = .bereit ∨ phase = .senden) :
    phase.Passt w' x := by
  have member := List.mem_of_head? head
  have known := (laeuft.bekannt x member).1
  have open_ (untouched : ¬ beruehrt x.clientUuid) (before : Offen w x) : Offen w' x := by
    intro e' inside same text
    rcases fort.zeilen e' inside with ⟨e, old, kept, stays⟩ | ⟨fresh, -⟩
    · have sameUuid := kept.clientUuid.symm.trans same
      have textual : e.typ.istFoto = false := kept.typ ▸ text
      exact (stays textual).2 (sameUuid ▸ untouched) (before e old sameUuid textual)
    · exact absurd (same ▸ known) fresh
  have past (before : Vorbei w x) : Vorbei w' x := by
    intro e' inside same text
    rcases fort.zeilen e' inside with ⟨e, old, kept, stays⟩ | ⟨fresh, -⟩
    · have textual : e.typ.istFoto = false := kept.typ ▸ text
      by_contra still
      have was := (stays textual).1 ((Bool.not_eq_false _).mp still)
      rw [before e old (kept.clientUuid.symm.trans same) textual] at was
      cases was
    · exact absurd (same ▸ known) fresh
  cases phase with
  | foto eintrag | pruefung eintrag | unterwegs eintrag =>
    exact ⟨passt.1, open_ (by simpa using frei) passt.2⟩
  | schreibt aenderung weiter => exact ⟨passt.1, open_ (by simpa using frei) passt.2⟩
  | bestaetigt =>
    obtain ⟨antwort, logged, taken⟩ := passt
    exact ⟨antwort, fort.antworten logged, taken⟩
  | fertig weiter =>
    cases weiter with
    | false => trivial
    | true => exact past passt
  | materialFehlt => exact passt
  | bereit | senden | lesen => trivial

theorem fort (fort : Fort beruehrt w w')
    (frei : ∀ x, spur.inFlug = some x → ¬ beruehrt x.clientUuid) : spur.Laeuft w' where
  sortiert := laeuft.sortiert
  bekannt := fun x member => ⟨fort.vergeben (laeuft.bekannt x member).1, (laeuft.bekannt x member).2.trans fort.seq⟩
  gleich := by
    intro x member e' inside same
    rcases fort.zeilen e' inside with ⟨e, old, kept, -⟩ | ⟨fresh, -⟩
    · exact (laeuft.gleich x member e old (kept.clientUuid.symm.trans same)).trans kept
    · exact absurd (same ▸ (laeuft.bekannt x member).1) fresh
  voll := by
    intro x member e' inside vor
    rcases fort.zeilen e' inside with ⟨e, old, kept, stays⟩ | ⟨-, later⟩
    · have textual : e.typ.istFoto = false := kept.typ ▸ vor.text
      have before : Vor e x := ⟨textual, vor.textX, kept.dispatchId ▸ vor.dispatchId, kept.seq ▸ vor.seq,
        (stays textual).1 vor.offen⟩
      obtain ⟨y, listed, same⟩ := laeuft.voll x member e old before
      exact ⟨y, listed, kept.clientUuid.trans same⟩
    · have bound := (laeuft.bekannt x member).2
      have earlier := vor.seq
      omega
  belegt := laeuft.belegt
  passt := by
    intro x head
    refine laeuft.passt_fort fort head (laeuft.passt x head) ?_
    cases phase : spur.phase <;> first
      | exact Or.inl (frei x (by rw [Spur.inFlug, phase]; exact head))
      | simp

theorem vorn {rest : List Eintrag} (first : spur.rest = x :: rest) {e : Eintrag}
    (member : e ∈ w.outbox) : ¬ Vor e x := by
  intro vor
  have head : x ∈ spur.rest := first ▸ List.mem_cons_self ..
  obtain ⟨y, listed, same⟩ := laeuft.voll x head e member vor
  have sameSeq := (laeuft.gleich y listed e member same).seq
  have sorted := laeuft.sortiert
  rw [first] at sorted listed
  have least : x.seq ≤ y.seq := by
    rcases List.mem_cons.mp listed with rfl | later
    · exact le_refl _
    · exact List.rel_of_pairwise_cons sorted later
  have earlier := vor.seq
  omega

theorem naechster {rest : List Eintrag} (first : spur.rest = x :: rest)
    (past : Vorbei w x) : Spur.Laeuft w { rest } where
  sortiert := (first ▸ laeuft.sortiert).of_cons
  bekannt := fun y member => laeuft.bekannt y (first ▸ List.mem_cons_of_mem _ member)
  gleich := fun y member => laeuft.gleich y (first ▸ List.mem_cons_of_mem _ member)
  voll := by
    intro y member e inside vor
    obtain ⟨z, listed, same⟩ := laeuft.voll y (first ▸ List.mem_cons_of_mem _ member) e inside vor
    rw [first] at listed
    rcases List.mem_cons.mp listed with rfl | later
    · exact absurd vor.offen (by simp [past e inside same vor.text])
    · exact ⟨z, later, same⟩
  belegt := fun _ => rfl
  passt := fun _ _ => trivial

end

end Spur.Laeuft

structure Welt.Zeilen (w : Welt) : Prop where
  eindeutig : (w.outbox.map (·.clientUuid)).Nodup
  bekannt : ∀ e ∈ w.outbox, e.clientUuid ∈ w.vergeben ∧ e.seq ≤ w.seq
  sperren : w.sperren = []

structure Welt.Ordnung (w : Welt) : Prop extends w.Zeilen where
  laeuft : ∀ spur ∈ w.spuren, spur.Laeuft w
  flug : ∀ (i j : Nat) (a b : Spur) (x y : Eintrag), w.spuren[i]? = some a → w.spuren[j]? = some b → a.inFlug = some x → b.inFlug = some y →
    x.clientUuid = y.clientUuid → i = j
  bearbeitung : ∀ spur ∈ w.spuren, ∀ x, spur.inFlug = some x → x.clientUuid ∈ w.inBearbeitung

namespace Welt.Ordnung

variable {w w' : Welt} {beruehrt : String → Prop}

theorem gleich (ordnung : w.Ordnung) {e e' : Eintrag} (member : e ∈ w.outbox) (member' : e' ∈ w.outbox)
    (same : e'.clientUuid = e.clientUuid) : Gleich e e' := by
  rw [List.inj_on_of_nodup_map ordnung.eindeutig member member' same.symm]
  exact .refl e'

variable {i : Nat} {spur neu : Spur}

section

variable (ordnung : w.Ordnung)
include ordnung

/-- A move of one lane: it touches the row of its running `senden` at most. -/
theorem zug (found : w.spuren[i]? = some spur)
    (spuren : w'.spuren = w.spuren.set i neu) (fort : Fort beruehrt w w') (zeilen : w'.Zeilen)
    (eigen : ∀ u, beruehrt u → ∃ x, spur.inFlug = some x ∧ x.clientUuid = u) (laeuft : neu.Laeuft w')
    (flug : ∀ x, neu.inFlug = some x →
      (spur.inFlug = some x ∨ x.clientUuid ∉ w.inBearbeitung) ∧ x.clientUuid ∈ w'.inBearbeitung)
    (bearbeitung : ∀ u ∈ w.inBearbeitung, u ∈ w'.inBearbeitung ∨ ∃ x, spur.inFlug = some x ∧ x.clientUuid = u) :
    w'.Ordnung := by
  have cases_ (j : Nat) (a : Spur) (at_ : w'.spuren[j]? = some a) : i = j ∧ a = neu ∨ i ≠ j ∧ w.spuren[j]? = some a := by
    rw [spuren, List.getElem?_set] at at_
    split at at_
    · next same =>
      split at at_
      · exact Or.inl ⟨same, (Option.some.inj at_).symm⟩
      · cases at_
    · next other => exact Or.inr ⟨other, at_⟩
  refine ⟨zeilen, ?_, ?_, ?_⟩
  · intro a member
    obtain ⟨j, at_⟩ := List.getElem?_of_mem member
    rcases cases_ j a at_ with ⟨-, rfl⟩ | ⟨other, old⟩
    · exact laeuft
    · refine (ordnung.laeuft a (List.mem_of_getElem? old)).fort fort fun x flies touched => ?_
      obtain ⟨y, own, same⟩ := eigen _ touched
      exact other (ordnung.flug i j spur a y x found old own flies same)
  · intro j k a b x y atJ atK fliesA fliesB same
    rcases cases_ j a atJ with ⟨rfl, rfl⟩ | ⟨otherJ, oldA⟩ <;> rcases cases_ k b atK with ⟨rfl, rfl⟩ | ⟨otherK, oldB⟩
    · rfl
    · rcases (flug x fliesA).1 with own | free
      · exact ordnung.flug _ _ _ _ _ _ found oldB own fliesB same
      · rw [same] at free
        exact absurd (ordnung.bearbeitung b (List.mem_of_getElem? oldB) y fliesB) free
    · rcases (flug y fliesB).1 with own | free
      · exact ordnung.flug _ _ _ _ _ _ oldA found fliesA own same
      · rw [← same] at free
        exact absurd (ordnung.bearbeitung a (List.mem_of_getElem? oldA) x fliesA) free
    · exact ordnung.flug _ _ _ _ _ _ oldA oldB fliesA fliesB same
  · intro a member x flies
    obtain ⟨j, at_⟩ := List.getElem?_of_mem member
    rcases cases_ j a at_ with ⟨-, rfl⟩ | ⟨other, old⟩
    · exact (flug x flies).2
    · rcases bearbeitung _ (ordnung.bearbeitung a (List.mem_of_getElem? old) x flies) with kept | ⟨y, own, same⟩
      · exact kept
      · exact absurd (ordnung.flug i j spur a y x found old own flies same) other

theorem ausserhalb {neue : List Spur} (spuren : w'.spuren = w.spuren ++ neue)
    (fort : Fort (fun _ => False) w w') (zeilen : w'.Zeilen) (laeuft : ∀ spur ∈ neue, spur.Laeuft w')
    (still : ∀ spur ∈ neue, spur.inFlug = none) (bearbeitung : w'.inBearbeitung = w.inBearbeitung) : w'.Ordnung := by
  have flies (j : Nat) (a : Spur) (x : Eintrag) (at_ : w'.spuren[j]? = some a) (flies : a.inFlug = some x) :
      w.spuren[j]? = some a := by
    rw [spuren] at at_
    by_cases inside : j < w.spuren.length
    · rwa [List.getElem?_append_left inside] at at_
    · rw [List.getElem?_append_right (Nat.le_of_not_lt inside)] at at_
      rw [still a (List.mem_of_getElem? at_)] at flies
      cases flies
  refine ⟨zeilen, ?_, ?_, ?_⟩
  · intro a member
    rw [spuren] at member
    rcases List.mem_append.mp member with old | new
    · exact (ordnung.laeuft a old).fort fort fun _ _ => id
    · exact laeuft a new
  · intro j k a b x y atJ atK fliesA fliesB same
    exact ordnung.flug j k a b x y (flies j a x atJ fliesA) (flies k b y atK fliesB) fliesA fliesB same
  · intro a member x fliesA
    obtain ⟨j, at_⟩ := List.getElem?_of_mem member
    rw [bearbeitung]
    exact ordnung.bearbeitung a (List.mem_of_getElem? (flies j a x at_ fliesA)) x fliesA

theorem daneben (outbox : w'.outbox = w.outbox) (vergeben : w'.vergeben = w.vergeben)
    (seq : w'.seq = w.seq) (antworten : w.antworten ⊆ w'.antworten) (sperren : w'.sperren = w.sperren)
    (spuren : w'.spuren = w.spuren) (bearbeitung : w'.inBearbeitung = w.inBearbeitung) : w'.Ordnung := by
  refine @ausserhalb w w' ordnung [] (spuren.trans (List.append_nil _).symm) (.of_same outbox vergeben seq antworten)
    ⟨outbox ▸ ordnung.eindeutig, ?_, sperren.trans ordnung.sperren⟩ (List.forall_mem_nil _) (List.forall_mem_nil _)
    bearbeitung
  rw [outbox, vergeben, seq]
  exact ordnung.bekannt

theorem setSpur (found : w.spuren[i]? = some spur)
    (laeuft : neu.Laeuft w) (flug : ∀ x, neu.inFlug = some x → spur.inFlug = some x) : (w.setSpur i neu).Ordnung := by
  have same : Fort (fun _ => False) w (w.setSpur i neu) := .of_same rfl rfl rfl (List.Subset.refl _)
  refine ordnung.zug found rfl same ⟨ordnung.eindeutig, ordnung.bekannt, ordnung.sperren⟩ (fun _ => False.elim)
    (laeuft.fort same fun _ _ => id) (fun x flies => ⟨Or.inl (flug x flies), ?_⟩) fun u member => Or.inl member
  exact ordnung.bearbeitung spur (List.mem_of_getElem? found) x (flug x flies)

/-- The call of `senden` ends and the lane goes on or not. -/
theorem beendet (found : w.spuren[i]? = some spur) {x : Eintrag}
    (flies : spur.inFlug = some x) (laeuft : neu.Laeuft w) (still : neu.inFlug = none) :
    ((w.beendet x.clientUuid).setSpur i neu).Ordnung := by
  have same : Fort (fun _ => False) w ((w.beendet x.clientUuid).setSpur i neu) :=
    .of_same rfl rfl rfl (List.Subset.refl _)
  refine ordnung.zug found rfl same ⟨ordnung.eindeutig, ordnung.bekannt, ordnung.sperren⟩ (fun _ => False.elim)
    (laeuft.fort same fun _ _ => id) (fun y flying => by rw [still] at flying; cases flying) fun u member => ?_
  by_cases own : u = x.clientUuid
  · exact Or.inr ⟨x, flies, own.symm⟩
  · exact Or.inl ((List.mem_erase_of_ne own).mpr member)

end

end Welt.Ordnung

section Update

variable {w w' : Welt} {beruehrt : String → Prop} {p : Eintrag → Bool} {werte : Eintrag → Eintrag}

theorem Fort.update (same : ∀ e, Gleich e (werte e))
    (closes : ∀ e ∈ w.outbox, p e = true → e.typ.istFoto = false → (werte e).status.offen = true →
      e.status.offen = true)
    (stays : ∀ e ∈ w.outbox, p e = true → e.typ.istFoto = false → ¬ beruehrt e.clientUuid → e.status.offen = true →
      (werte e).status.offen = true)
    (outbox : w'.outbox = Relational.update p werte w.outbox) (vergeben : w'.vergeben = w.vergeben)
    (seq : w'.seq = w.seq) (antworten : w'.antworten = w.antworten) : Fort beruehrt w w' where
  zeilen := by
    intro e' member
    rw [outbox] at member
    obtain ⟨e, inside, rfl⟩ := Relational.mem_update.mp member
    refine Or.inl ⟨e, inside, ?_⟩
    split
    · next hit => exact ⟨same e, fun text => ⟨closes e inside hit text, stays e inside hit text⟩⟩
    · exact ⟨.refl e, fun _ => ⟨id, fun _ => id⟩⟩
  vergeben := vergeben ▸ List.Subset.refl _
  seq := seq.ge
  antworten := antworten ▸ List.Subset.refl _

theorem Welt.Zeilen.update (zeilen : w.Zeilen) (same : ∀ e, Gleich e (werte e))
    (outbox : w'.outbox = Relational.update p werte w.outbox) (vergeben : w'.vergeben = w.vergeben)
    (seq : w'.seq = w.seq) (sperren : w'.sperren = w.sperren) : w'.Zeilen where
  eindeutig := by
    rw [outbox, Relational.map_update fun e => (same e).clientUuid]
    exact zeilen.eindeutig
  bekannt := by
    intro e' member
    rw [outbox] at member
    obtain ⟨e, inside, rfl⟩ := Relational.mem_update.mp member
    have known := zeilen.bekannt e inside
    rw [vergeben, seq]
    split
    · rw [(same e).clientUuid, (same e).seq]
      exact known
    · exact known
  sperren := sperren.trans zeilen.sperren

end Update

theorem Aenderung.gleich (aenderung : Aenderung) (e : Eintrag) : Gleich e (aenderung.auf e) := ⟨rfl, rfl, rfl, rfl⟩

theorem faellig_offen {jetzt : Int} (due : faellig jetzt e = true) : e.status.offen = true := by
  unfold faellig at due
  cases status : e.status <;> simp [status, Status.offen] at due ⊢

theorem zeile?_spec {clientUuid : String} (found : w.zeile? clientUuid = some e) :
    e ∈ w.outbox ∧ e.clientUuid = clientUuid :=
  ⟨List.mem_of_find?_eq_some found, by simpa using List.find?_some found⟩

section Lanes

variable {w : Welt} (ordnung : w.Ordnung) {i : Nat} {spur : Spur} (found : w.spuren[i]? = some spur)
include ordnung found

variable {x : Eintrag} {rest : List Eintrag}

section

variable (first : spur.rest = x :: rest)
include first

theorem senden_ordnung :
    (w.senden i spur x).Ordnung := by
  have laeuft := ordnung.laeuft spur (List.mem_of_getElem? found)
  unfold Welt.senden
  split
  · exact ordnung.setSpur found (.leer w) fun _ none => by cases none
  · next free =>
    simp only [Bool.or_eq_true, List.contains_iff_mem, not_or] at free
    have same : Fort (fun _ => False) w { w.setSpur i { spur with phase := .lesen } with
        inBearbeitung := x.clientUuid :: w.inBearbeitung } := .of_same rfl rfl rfl (List.Subset.refl _)
    have waits : Spur.Laeuft w { spur with phase := .lesen } := laeuft.setPhase (by rw [first]; rfl) trivial
    refine ordnung.zug found rfl same ⟨ordnung.eindeutig, ordnung.bekannt, ordnung.sperren⟩ (fun _ => False.elim)
      (waits.fort same fun _ _ => id) (fun y flies => ?_) fun u member => Or.inl (List.mem_cons_of_mem _ member)
    simp only [Spur.inFlug, first, List.head?_cons, Option.some.injEq] at flies
    exact flies ▸ ⟨Or.inr free.2, List.mem_cons_self ..⟩

/-- `senden` writes the row of its own entry. -/
theorem schreibt_ordnung {aenderung : Aenderung}
    {weiter : Bool} (phase : spur.phase = .schreibt aenderung weiter) :
    ((w.setze x.clientUuid aenderung).setSpur i { spur with phase := .fertig weiter }).Ordnung := by
  have laeuft := ordnung.laeuft spur (List.mem_of_getElem? found)
  have passt := laeuft.passt x (by rw [first]; rfl)
  rw [phase] at passt
  obtain ⟨ends, open_⟩ := passt
  have flies : spur.inFlug = some x := by rw [Spur.inFlug, phase, first]; rfl
  have fort : Fort (· = x.clientUuid) w
      ((w.setze x.clientUuid aenderung).setSpur i { spur with phase := .fertig weiter }) := by
    refine .update (Aenderung.gleich aenderung) (fun e member hit text _ => ?_) (fun e member hit _ untouched _ => ?_)
      rfl rfl rfl rfl
    · simp only [Bool.and_eq_true, beq_iff_eq] at hit
      exact open_ e member hit.1 text
    · simp only [Bool.and_eq_true, beq_iff_eq] at hit
      exact absurd hit.1 untouched
  have zeilen : ((w.setze x.clientUuid aenderung).setSpur i { spur with phase := .fertig weiter }).Zeilen :=
    ordnung.toZeilen.update (Aenderung.gleich aenderung) rfl rfl rfl rfl
  have head : spur.rest.head? = some x := by rw [first]; rfl
  have waits : Spur.Laeuft _ { spur with phase := .bereit } :=
    (laeuft.setPhase head trivial : Spur.Laeuft w { spur with phase := .bereit }).fort fort fun _ none => by cases none
  refine ordnung.zug found rfl fort zeilen (fun u own => ⟨x, flies, own.symm⟩) (waits.setPhase head ?_)
    (fun y flying => ?_) fun u member => Or.inl member
  · cases weiter with
    | false => trivial
    | true =>
      intro e' inside same text
      obtain ⟨e, old, written⟩ := Relational.mem_update.mp inside
      split at written
      · rw [← written]
        exact ends rfl
      · next missed =>
        subst written
        simp only [same, beq_self_eq_true, Bool.true_and, bne_iff_ne, ne_eq, not_not] at missed
        rw [missed]
        rfl
  · have own : spur.inFlug = some y := by
      rw [flies, ← flying, Spur.inFlug, first]
      rfl
    exact ⟨Or.inl own, ordnung.bearbeitung spur (List.mem_of_getElem? found) y own⟩

/-- `bestaetigen` takes the row of its own entry away, and no other. -/
theorem bestaetigt_ordnung
    (phase : spur.phase = .bestaetigt) (offen : w.terminal = false) :
    ((w.bestaetigen x.clientUuid).setSpur i { spur with phase := .fertig true }).Ordnung := by
  have laeuft := ordnung.laeuft spur (List.mem_of_getElem? found)
  have flies : spur.inFlug = some x := by rw [Spur.inFlug, phase, first]; rfl
  have head : spur.rest.head? = some x := by rw [first]; rfl
  have waits : Spur.Laeuft w { spur with phase := .bereit } := laeuft.setPhase head trivial
  have flying {y : Eintrag} (own : ({ spur with phase := .fertig true } : Spur).inFlug = some y) : y = x :=
    Option.some.inj (own.symm.trans head)
  unfold Welt.bestaetigen
  split
  · next kept =>
    rw [offen, Bool.false_or] at kept
    refine ordnung.setSpur found (waits.setPhase head ?_) fun y own => flying own ▸ flies
    intro e inside same text
    cases row : w.zeile? x.clientUuid with
    | none =>
      have missing := List.find?_eq_none.mp row e inside
      simp [same] at missing
    | some known =>
      rw [row, Option.all_some, beq_iff_eq] at kept
      obtain ⟨member, uuid⟩ := zeile?_spec row
      rw [List.inj_on_of_nodup_map ordnung.eindeutig inside member (same.trans uuid.symm), kept]
      rfl
  · have gone : Fort (fun _ => False) w
        ({ w with outbox := w.outbox.filter fun e => e.clientUuid != x.clientUuid }.setSpur i
          { spur with phase := .fertig true }) :=
      ⟨fun e member => Or.inl ⟨e, List.mem_of_mem_filter member, .refl e, fun _ => ⟨id, fun _ => id⟩⟩,
        List.Subset.refl _, le_refl _, List.Subset.refl _⟩
    refine ordnung.zug found rfl gone ⟨?_, fun e member => ordnung.bekannt e (List.mem_of_mem_filter member),
      ordnung.sperren⟩ (fun _ => False.elim) ((waits.fort gone fun _ none => by cases none).setPhase head ?_)
      (fun y own => ?_) fun u member => Or.inl member
    · exact ordnung.eindeutig.sublist ((List.filter_sublist ..).map _)
    · intro e inside same _
      have stays := (List.mem_filter.mp inside).2
      simp [same] at stays
    · rw [flying own]
      exact ⟨Or.inl flies, ordnung.bearbeitung spur (List.mem_of_getElem? found) x flies⟩

theorem materialFehlt_ordnung
    (phase : spur.phase = .materialFehlt) (aenderung : Aenderung) :
    ((w.setze x.clientUuid aenderung).setSpur i { rest := [] }).Ordnung := by
  have laeuft := ordnung.laeuft spur (List.mem_of_getElem? found)
  have foto := laeuft.passt x (by rw [first]; rfl)
  rw [phase] at foto
  have noText {e : Eintrag} (member : e ∈ w.outbox)
      (hit : (e.clientUuid == x.clientUuid && e.status != .blockiertZugang) = true) : ¬ e.typ.istFoto = false := by
    simp only [Bool.and_eq_true, beq_iff_eq] at hit
    rw [(laeuft.gleich x (first ▸ List.mem_cons_self ..) e member hit.1).typ, foto]
    exact Bool.noConfusion
  have fort : Fort (fun _ => False) w ((w.setze x.clientUuid aenderung).setSpur i { rest := [] }) :=
    .update (Aenderung.gleich aenderung) (fun e member hit text => absurd text (noText member hit))
      (fun e member hit text => absurd text (noText member hit)) rfl rfl rfl rfl
  have zeilen : ((w.setze x.clientUuid aenderung).setSpur i { rest := [] }).Zeilen :=
    ordnung.toZeilen.update (Aenderung.gleich aenderung) rfl rfl rfl rfl
  exact ordnung.zug found rfl fort zeilen (fun _ => False.elim) (.leer _) (fun _ none => by cases none)
    fun u member => Or.inl member

end

theorem setPhase_ordnung (phase : Phase) (flies : spur.inFlug = some x) (passt : phase.Passt w x) :
    (w.setSpur i { spur with phase }).Ordnung := by
  have laeuft := ordnung.laeuft spur (List.mem_of_getElem? found)
  have head : spur.rest.head? = some x := by
    unfold Spur.inFlug at flies
    split at flies <;> first
      | cases flies
      | exact flies
  refine ordnung.setSpur found (laeuft.setPhase head passt) fun y own => ?_
  have isHead : spur.rest.head? = some y := by
    unfold Spur.inFlug at own
    split at own <;> first
      | cases own
      | exact own
  rw [flies, ← head, isHead]

end Lanes

theorem lesen_ordnung (ordnung : w.Ordnung) {i : Nat} {x : Eintrag} {rest : List Eintrag}
    (found : w.spuren[i]? = some { rest := x :: rest, phase := .lesen }) :
    (w.weiter i { rest := x :: rest, phase := .lesen }).Ordnung := by
  have laeuft := ordnung.laeuft _ (List.mem_of_getElem? found)
  unfold Welt.weiter
  dsimp only
  split
  · exact setPhase_ordnung ordnung found (.fertig false) rfl trivial
  · next aktuell row =>
    obtain ⟨member, uuid⟩ := zeile?_spec row
    have same : Gleich x aktuell := laeuft.gleich x (List.mem_cons_self ..) aktuell member uuid
    split
    · exact setPhase_ordnung ordnung found (.fertig false) rfl trivial
    · next due =>
      simp only [Bool.or_eq_true, Bool.not_eq_true', not_or, Bool.not_eq_false] at due
      have open_ : Offen w x := by
        intro e inside sameUuid _
        rw [List.inj_on_of_nodup_map ordnung.eindeutig inside member (sameUuid.trans uuid.symm)]
        exact faellig_offen due.2
      split
      · exact setPhase_ordnung ordnung found (.schreibt _ true) rfl ⟨fun _ => rfl, open_⟩
      · split
        · exact setPhase_ordnung ordnung found (.foto aktuell) rfl ⟨same, open_⟩
        · exact setPhase_ordnung ordnung found (.pruefung aktuell) rfl ⟨same, open_⟩

section Lanes

variable {w : Welt} (ordnung : w.Ordnung) {i : Nat} {spur : Spur} (found : w.spuren[i]? = some spur)
include ordnung found

theorem weiter_ordnung (offen : w.terminal = false) : (w.weiter i spur).Ordnung := by
  have laeuft := ordnung.laeuft spur (List.mem_of_getElem? found)
  rcases spur with ⟨_ | ⟨x, rest⟩, phase⟩
  · exact ordnung
  · have passt := laeuft.passt x rfl
    cases phase with
    | lesen => exact lesen_ordnung ordnung found
    | bereit =>
      unfold Welt.weiter
      dsimp only
      split
      · exact ordnung.setSpur found (.leer w) fun _ none => by cases none
      · exact senden_ordnung ordnung found rfl
    | senden => exact senden_ordnung ordnung found rfl
    | foto | pruefung | unterwegs => exact ordnung
    | schreibt aenderung weiter => exact schreibt_ordnung ordnung found rfl rfl
    | bestaetigt => exact bestaetigt_ordnung ordnung found rfl rfl offen
    | fertig weiter =>
      cases weiter with
      | true => exact ordnung.beendet found rfl (laeuft.naechster rfl passt) rfl
      | false => exact ordnung.beendet found rfl (.leer w) rfl
    | materialFehlt => exact materialFehlt_ordnung ordnung found rfl rfl _

theorem gescheitert_ordnung {x eintrag : Eintrag} (flies : spur.inFlug = some x) (open_ : Offen w x) (text : String) :
    (w.gescheitert i spur eintrag text).Ordnung := by
  unfold Welt.gescheitert
  split
  · exact setPhase_ordnung ordnung found (.fertig false) flies trivial
  · exact setPhase_ordnung ordnung found (.schreibt _ false) flies ⟨fun no => absurd no Bool.false_ne_true, open_⟩

omit found in
theorem wartet {rest : List Eintrag} {phase : Phase} (found : w.spuren[i]? = some { rest, phase })
    (waits : phase ≠ .bereit) : ∃ x later, rest = x :: later ∧ phase.Passt w x := by
  have laeuft := ordnung.laeuft _ (List.mem_of_getElem? found)
  cases rest with
  | nil => exact absurd (laeuft.belegt rfl) waits
  | cons x later => exact ⟨x, later, rfl, laeuft.passt x rfl⟩

theorem fotoDatei_ordnung (lesbar : Bool) : (w.fotoDatei i spur lesbar).Ordnung := by
  rcases spur with ⟨rest, phase⟩
  cases phase with
  | foto eintrag =>
    obtain ⟨x, later, rfl, passt⟩ := wartet ordnung found (by simp)
    unfold Welt.fotoDatei
    dsimp only
    split
    · exact setPhase_ordnung ordnung found (.pruefung eintrag) rfl passt
    · exact setPhase_ordnung ordnung found (.schreibt _ true) rfl ⟨fun _ => rfl, passt.2⟩
  | _ => exact ordnung

theorem netzfehler_ordnung (text : String) : (w.netzfehler i spur text).Ordnung := by
  rcases spur with ⟨rest, phase⟩
  cases phase with
  | pruefung eintrag | unterwegs eintrag =>
    obtain ⟨x, later, rfl, passt⟩ := wartet ordnung found (by simp)
    exact gescheitert_ordnung ordnung found rfl passt.2 text
  | _ => exact ordnung

theorem timeout_ordnung : (w.timeout i spur).Ordnung := by
  rcases spur with ⟨rest, phase⟩
  cases phase with
  | foto eintrag | pruefung eintrag | unterwegs eintrag =>
    obtain ⟨x, later, rfl, passt⟩ := wartet ordnung found (by simp)
    exact gescheitert_ordnung ordnung found rfl passt.2 _
  | _ => exact ordnung

theorem ausfall_ordnung : (w.ausfall i spur).Ordnung := by
  rcases spur with ⟨rest, phase⟩
  cases phase with
  | lesen | schreibt | bestaetigt =>
    obtain ⟨x, later, rfl, -⟩ := wartet ordnung found (by simp)
    exact ordnung.beendet found rfl (.leer w) rfl
  | materialFehlt =>
    obtain ⟨x, later, rfl, -⟩ := wartet ordnung found (by simp)
    exact ordnung.setSpur found (.leer w) fun _ none => by cases none
  | _ =>
    unfold Welt.ausfall
    split <;> first
      | contradiction
      | exact ordnung

theorem kontext_ordnung (kontext : Kontext) (offen : (w.kontext i spur kontext).terminal = false) :
    (w.kontext i spur kontext).Ordnung := by
  rcases spur with ⟨rest, phase⟩
  cases phase with
  | pruefung eintrag =>
    obtain ⟨x, later, rfl, passt⟩ := wartet ordnung found (by simp)
    cases kontext with
    | beendet => cases offen
    | frei =>
      unfold Welt.kontext
      dsimp only
      split
      · exact setPhase_ordnung ordnung found (.fertig false) rfl trivial
      · have sent := setPhase_ordnung ordnung found (.unterwegs eintrag) rfl passt
        exact sent.daneben rfl rfl rfl (List.Subset.refl _) rfl rfl rfl
  | _ => exact ordnung

theorem antwort_ordnung (antwort : Antwort) (offen : (w.antwort i spur antwort).terminal = false) :
    (w.antwort i spur antwort).Ordnung := by
  rcases spur with ⟨rest, phase⟩
  cases phase with
  | unterwegs eintrag =>
    obtain ⟨x, later, rfl, same, open_⟩ := wartet ordnung found (by simp)
    have logged : ({ w with antworten := w.antworten ++ [(eintrag.clientUuid, antwort)] } : Welt).Ordnung :=
      ordnung.daneben rfl rfl rfl (List.subset_append_left ..) rfl rfl rfl
    unfold Welt.antwort at offen ⊢
    dsimp only at offen ⊢
    split
    · exact setPhase_ordnung logged found (.fertig false) rfl trivial
    · next isOpen =>
      rw [if_neg isOpen] at offen
      split
      · next taken =>
        refine setPhase_ordnung logged found .bestaetigt rfl ⟨antwort, ?_, auswerten_bestaetigen taken⟩
        rw [← same.clientUuid]
        exact List.mem_append_right _ (List.mem_singleton_self _)
      · next blocked =>
        rw [blocked] at offen
        cases offen
      · next aenderung weiter written =>
        refine setPhase_ordnung logged found (.schreibt aenderung weiter) rfl ⟨fun goesOn => ?_, open_⟩
        rw [goesOn] at written
        exact auswerten_weiter written
  | _ => exact ordnung

end Lanes

theorem mem_neueEintraege {terminal : Bool} {seq : Nat} {daten : List Erfassung}
    (member : e ∈ Welt.neueEintraege terminal seq daten) : seq < e.seq ∧ e.seq ≤ seq + daten.length := by
  induction daten generalizing seq with
  | nil => cases member
  | cons first rest ih =>
    rw [Welt.neueEintraege, List.mem_cons] at member
    rw [List.length_cons]
    rcases member with rfl | later
    · split <;> exact ⟨Nat.lt_succ_self seq, by dsimp only; omega⟩
    · have bounds := ih later
      omega

theorem neueEintraege_uuids (terminal : Bool) (seq : Nat) (daten : List Erfassung) :
    (Welt.neueEintraege terminal seq daten).map (·.clientUuid) = daten.map (·.clientUuid) := by
  induction daten generalizing seq with
  | nil => rfl
  | cons first rest ih =>
    rw [Welt.neueEintraege, List.map_cons, List.map_cons, ih]
    split <;> rfl

section Stores

variable {w : Welt} (ordnung : w.Ordnung)
include ordnung

theorem erfassen_ordnung (daten : List Erfassung) : (w.erfassen daten).Ordnung := by
  unfold Welt.erfassen
  dsimp only
  split
  · exact ordnung
  · next refused =>
    simp only [Bool.or_eq_true, List.any_eq_true, List.contains_iff_mem, Bool.not_eq_true', decide_eq_false_iff_not,
      not_or, not_exists, not_and, not_not] at refused
    obtain ⟨fresh, distinct⟩ := refused
    have uuid {e : Eintrag} (new : e ∈ Welt.neueEintraege w.terminal w.seq daten) :
        e.clientUuid ∈ daten.map (·.clientUuid) := by
      rw [← neueEintraege_uuids w.terminal w.seq]
      exact List.mem_map_of_mem new
    have noNew : w.spuren = w.spuren ++ [] := (List.append_nil _).symm
    refine ordnung.ausserhalb noNew ⟨fun e member => ?_, List.subset_append_left .., Nat.le_add_right .., fun _ => id⟩
      ⟨?_, fun e member => ?_, ordnung.sperren⟩ (List.forall_mem_nil _) (List.forall_mem_nil _) rfl
    · rcases List.mem_append.mp member with old | new
      · exact Or.inl ⟨e, old, .refl e, fun _ => ⟨id, fun _ => id⟩⟩
      · exact Or.inr ⟨fresh _ (uuid new), (mem_neueEintraege new).1⟩
    · rw [List.map_append, neueEintraege_uuids, List.nodup_append]
      refine ⟨ordnung.eindeutig, distinct, fun a old b new same => ?_⟩
      obtain ⟨e, inside, rfl⟩ := List.mem_map.mp old
      exact fresh b new (same ▸ (ordnung.bekannt e inside).1)
    · rcases List.mem_append.mp member with old | new
      · exact ⟨List.mem_append_left _ (ordnung.bekannt e old).1, Nat.le_add_right_of_le (ordnung.bekannt e old).2⟩
      · exact ⟨List.mem_append_right _ (uuid new), (mem_neueEintraege new).2⟩

theorem wiederverbunden_ordnung : w.wiederverbunden.Ordnung := by
  have same (e : Eintrag) : Gleich e { e with status := .ausstehend, naechsterVersuchAt := none } := ⟨rfl, rfl, rfl, rfl⟩
  have fort : Fort (fun _ => False) w w.wiederverbunden := by
    refine .update same (fun e _ hit _ _ => ?_) (fun _ _ _ _ _ _ => rfl) rfl rfl rfl rfl
    simp only [Bool.and_eq_true, beq_iff_eq] at hit
    rw [hit.1]
    rfl
  exact ordnung.ausserhalb (List.append_nil _).symm fort (ordnung.toZeilen.update same rfl rfl rfl rfl)
    (List.forall_mem_nil _) (List.forall_mem_nil _) rfl

theorem spaetesFoto_ordnung (clientUuid : String) : (w.spaetesFoto clientUuid).Ordnung := by
  unfold Welt.spaetesFoto
  split
  · next isFoto =>
    cases row : w.zeile? clientUuid with
    | none =>
      rw [row] at isFoto
      cases isFoto
    | some foto =>
      rw [row, Option.any_some] at isFoto
      obtain ⟨member, uuid⟩ := zeile?_spec row
      have noText {e : Eintrag} (inside : e ∈ w.outbox)
          (hit : (e.clientUuid == clientUuid && e.status != .blockiertZugang) = true) : ¬ e.typ.istFoto = false := by
        simp only [Bool.and_eq_true, beq_iff_eq] at hit
        rw [(ordnung.gleich member inside (hit.1.trans uuid.symm)).typ, isFoto]
        exact Bool.noConfusion
      have fort : Fort (fun _ => False) w
          (w.setze clientUuid { status := .fehler, letzterFehler := "foto_daten_fehlen" }) :=
        .update (Aenderung.gleich _) (fun e inside hit text => absurd text (noText inside hit))
          (fun e inside hit text => absurd text (noText inside hit)) rfl rfl rfl rfl
      exact ordnung.ausserhalb (List.append_nil _).symm fort
        (ordnung.toZeilen.update (Aenderung.gleich _) rfl rfl rfl rfl) (List.forall_mem_nil _) (List.forall_mem_nil _) rfl
  · exact ordnung

theorem sperre_ordnung (k : Nat) : (w.sperre k).Ordnung := by
  have none : w.sperren[k]? = none := by rw [ordnung.sperren, List.getElem?_nil]
  unfold Welt.sperre
  rw [none]
  exact ordnung

omit ordnung in
theorem mem_eintraege {e : Eintrag} : e ∈ w.eintraege ↔ e ∈ w.outbox := List.mem_insertionSort _

omit ordnung in
theorem eintraege_sortiert : w.eintraege.Pairwise fun a b => a.seq ≤ b.seq := by
  have : Std.Total fun a b : Eintrag => a.seq ≤ b.seq := ⟨fun a b => Nat.le_total a.seq b.seq⟩
  have : IsTrans Eintrag fun a b => a.seq ≤ b.seq := ⟨fun _ _ _ => Nat.le_trans⟩
  exact List.pairwise_insertionSort _ _

theorem statusSpuren_ordnung : w.statusSpuren.Ordnung := by
  have same : Fort (fun _ => False) w w.statusSpuren := .of_same rfl rfl rfl (List.Subset.refl _)
  refine ordnung.ausserhalb rfl same ⟨ordnung.eindeutig, ordnung.bekannt, ordnung.sperren⟩ (fun spur new => ?_)
    (fun spur new => ?_) rfl
  · obtain ⟨dispatchId, -, rfl⟩ := List.mem_map.mp new
    have inside {x : Eintrag} (listed : x ∈ (w.eintraege.filter fun e => !e.typ.istFoto && e.status.offen).filter
        fun e => e.dispatchId == dispatchId) : x ∈ w.outbox :=
      mem_eintraege.mp (List.mem_of_mem_filter (List.mem_of_mem_filter listed))
    refine @Spur.Laeuft.fort _ w _ _ ⟨(eintraege_sortiert.filter _).filter _, fun x listed => ordnung.bekannt x (inside listed),
      fun x listed e member => ordnung.gleich (inside listed) member, fun x listed e member vor => ⟨e, ?_, rfl⟩,
      fun _ => rfl, fun _ _ => trivial⟩ same fun _ _ => id
    have ofDispatch := (List.mem_filter.mp listed).2
    rw [beq_iff_eq] at ofDispatch
    refine List.mem_filter.mpr ⟨List.mem_filter.mpr ⟨mem_eintraege.mpr member, ?_⟩, ?_⟩
    · rw [vor.text, vor.offen]
      rfl
    · rw [vor.dispatchId, ofDispatch, beq_self_eq_true]
  · obtain ⟨dispatchId, -, rfl⟩ := List.mem_map.mp new
    rfl

theorem fotoSpur_ordnung : w.fotoSpur.Ordnung := by
  have same : Fort (fun _ => False) w w.fotoSpur := .of_same rfl rfl rfl (List.Subset.refl _)
  have single {foto : Eintrag} (listed : foto ∈ w.eintraege.filter fun e =>
      e.typ.istFoto && faellig w.jetzt e && !w.inBearbeitung.contains e.clientUuid) {phase : Phase}
      (passt : foto.typ.istFoto = true → phase.Passt w foto) (still : ({ rest := [foto], phase } : Spur).inFlug = none) :
      Spur.Laeuft w.fotoSpur { rest := [foto], phase } := by
    obtain ⟨sorted, picked⟩ := List.mem_filter.mp listed
    simp only [Bool.and_eq_true] at picked
    have member := mem_eintraege.mp sorted
    refine @Spur.Laeuft.fort _ w _ _ ⟨List.pairwise_singleton _ _, ?_, ?_, ?_,
      fun none => absurd none (List.cons_ne_nil _ _), ?_⟩ same fun _ _ => id
    · exact fun x isFoto => List.mem_singleton.mp isFoto ▸ ordnung.bekannt foto member
    · exact fun x isFoto e inside => List.mem_singleton.mp isFoto ▸ ordnung.gleich member inside
    · intro x isFoto e inside vor
      have text := vor.textX
      rw [List.mem_singleton.mp isFoto, picked.1.1] at text
      cases text
    · intro x head
      cases head
      exact passt picked.1.1
  refine ordnung.ausserhalb rfl same ⟨ordnung.eindeutig, ordnung.bekannt, ordnung.sperren⟩ (fun spur new => ?_)
    (fun spur new => ?_) rfl
  · obtain ⟨foto, listed, made⟩ := List.mem_filterMap.mp new
    dsimp only at made
    split at made
    · cases made
      exact single listed (fun _ => trivial) rfl
    · split at made
      · cases made
        exact single listed id rfl
      · cases made
  · obtain ⟨foto, listed, made⟩ := List.mem_filterMap.mp new
    dsimp only at made
    split at made
    · cases made
      rfl
    · split at made
      · cases made
        rfl
      · cases made

end Stores

end Einsatzcockpit.Outbox
