import Einsatzcockpit.Notify.Versand

namespace Einsatzcockpit.Notify

inductive Wirkung (w : World) : Schritt → World → Prop where
  | nichts {s : Schritt} : Wirkung w s w
  | geplant (zeile : BreathingZustellung) :
      Wirkung w (.plane zeile) { w with zeilen := w.zeilen ++ [{ zeile with id := w.zeilen.length + 1 }] }
  | gestartet (zeileId : Nat) (now : Zeit) :
      Wirkung w (.starte zeileId now) { w with auftraege := w.auftraege ++ [{ zeileId := zeileId, now := now }] }
  | beansprucht {n : Nat} {umstand : Umstand} {auftrag : Auftrag} (found : w.auftraege[n]? = some auftrag)
      (phase : auftrag.phase = .faellig) (hit : ∃ zeile ∈ w.zeilen, zeile.id = auftrag.zeileId ∧ faellig auftrag.now zeile = true) :
      Wirkung w (.weiter n umstand)
        { zeilen := Relational.update (fun zeile => zeile.id == auftrag.zeileId && faellig auftrag.now zeile)
            (beansprucht auftrag.now) w.zeilen
          auftraege := w.auftraege.set n { auftrag with phase := .beansprucht }
          ansprueche := (auftrag.zeileId, n) :: w.ansprueche }
  | bewegt {s : Schritt} {n : Nat} {auftrag : Auftrag} {phase : Phase} (found : w.auftraege[n]? = some auftrag)
      (begonnen : phase ≠ .faellig)
      (weiter : phase = .fertig ∨ auftrag.phase ≠ .fertig ∧ auftrag.phase ≠ .faellig) :
      Wirkung w s (w.setze n auftrag phase)
  | abgeschlossen {n : Nat} {umstand : Umstand} {auftrag : Auftrag} {gelesen neu : BreathingZustellung}
      (found : w.auftraege[n]? = some auftrag) (schreibt : abschluss umstand auftrag = some (gelesen, neu)) :
      Wirkung w (.weiter n umstand)
        ((w.schreibe auftrag.zeileId (BreathingZustellung.flush gelesen neu)).setze n auftrag .fertig)

theorem weiter_wirkung {w : World} {n : Nat} {umstand : Umstand} {auftrag : Auftrag}
    (found : w.auftraege[n]? = some auftrag) : Wirkung w (.weiter n umstand) (weiter n umstand auftrag w) := by
  unfold weiter
  cases phase : auftrag.phase with
  | faellig =>
    simp only
    split
    · next any =>
      obtain ⟨zeile, member, hit⟩ := List.any_eq_true.mp any
      rw [Bool.and_eq_true, beq_iff_eq] at hit
      exact .beansprucht found phase ⟨zeile, member, hit.1, hit.2⟩
    · exact .bewegt found (by simp) (.inl rfl)
  | beansprucht | versand =>
    simp only
    split
    · exact .bewegt found (by simp) (.inl rfl)
    · exact .bewegt found (by simp) (.inr (by simp [phase]))
  | gelesen | quittung =>
    simp only
    split
    · next schreibt => exact .abgeschlossen found schreibt
    · exact .bewegt found (by simp) (.inr (by simp [phase]))
  | fertig => exact .nichts

theorem schritt_wirkung (w : World) (s : Schritt) : Wirkung w s (schritt w s) := by
  cases s with
  | plane zeile => exact .geplant zeile
  | starte zeileId now => exact .gestartet zeileId now
  | weiter n umstand =>
    simp only [schritt]
    split
    · exact .nichts
    · next found => exact weiter_wirkung found
  | stirb n =>
    simp only [schritt]
    split
    · exact .nichts
    · next found => exact .bewegt found (by simp) (.inl rfl)

def World.Beansprucht (w : World) (id : Nat) : Prop :=
  ∃ zeile, w.zeile? id = some zeile ∧ zeile.status = .claimed

/-- The work that claimed a row last finds the row claimed until it is done. -/
structure World.Sound (w : World) : Prop where
  ids : Relational.Numbered BreathingZustellung.id w.zeilen
  bekannt : ∀ anspruch ∈ w.ansprueche, anspruch.2 < w.auftraege.length
  frisch : ∀ n auftrag, w.auftraege[n]? = some auftrag → auftrag.phase = .faellig → ∀ anspruch ∈ w.ansprueche, anspruch.2 ≠ n
  laufend : ∀ n auftrag, w.auftraege[n]? = some auftrag → w.inhaber auftrag.zeileId = some n →
    auftrag.phase = .fertig ∨ w.Beansprucht auftrag.zeileId

/-- A piece of work completes a row only while no other has claimed the row after it. -/
def Rechtzeitig (w : World) : Schritt → Prop
  | .weiter n umstand => ∀ auftrag ∈ w.auftraege[n]?, (abschluss umstand auftrag).isSome →
    w.inhaber auftrag.zeileId = some n
  | .plane _ | .starte _ _ | .stirb _ => True

instance decidableRechtzeitig (w : World) : (s : Schritt) → Decidable (Rechtzeitig w s)
  | .weiter n umstand =>
    inferInstanceAs (Decidable (∀ auftrag ∈ w.auftraege[n]?, (abschluss umstand auftrag).isSome →
      w.inhaber auftrag.zeileId = some n))
  | .plane _ | .starte _ _ | .stirb _ => .isTrue trivial

section Zeilen

variable {zeilen : List BreathingZustellung} {p : BreathingZustellung → Bool}
  {f : BreathingZustellung → BreathingZustellung} {id : Nat}

theorem find?_update_own (keeps : ∀ zeile, (f zeile).id = zeile.id) {zeile : BreathingZustellung}
    (found : zeilen.find? (·.id == id) = some zeile) :
    (Relational.update p f zeilen).find? (·.id == id) = some (if p zeile then f zeile else zeile) := by
  rw [Relational.find?_update, found, Option.map_some]
  intro other _
  rw [keeps]

theorem find?_update_other (only : ∀ zeile, p zeile = true → zeile.id ≠ id) (keeps : ∀ zeile, (f zeile).id = zeile.id) :
    (Relational.update p f zeilen).find? (·.id == id) = zeilen.find? (·.id == id) := by
  cases found : zeilen.find? (·.id == id) with
  | none =>
    rw [Relational.find?_update, found, Option.map_none]
    intro other _
    rw [keeps]
  | some zeile =>
    rw [find?_update_own keeps found]
    have own : zeile.id = id := by simpa using List.find?_some found
    rw [if_neg fun hit => only zeile hit own]

end Zeilen

variable {w w' : World} {s : Schritt} {id : Nat}

theorem inhaber_cons {anspruch : Nat × Nat} {zeilen : List BreathingZustellung} {auftraege : List Auftrag} :
    World.inhaber ⟨zeilen, auftraege, anspruch :: w.ansprueche⟩ id =
      if anspruch.1 = id then some anspruch.2 else w.inhaber id := by
  simp only [World.inhaber, List.find?_cons]
  by_cases same : anspruch.1 = id
  · simp [same]
  · simp [beq_eq_false_iff_ne.mpr same, same]

theorem Beansprucht.of_zeile (held : w.Beansprucht id) (same : w'.zeile? id = w.zeile? id) : w'.Beansprucht id := by
  obtain ⟨zeile, found, claimed⟩ := held
  exact ⟨zeile, same.trans found, claimed⟩

theorem getElem?_setze {auftraege : List Auftrag} {n m : Nat} {auftrag neu : Auftrag}
    (found : (auftraege.set n neu)[m]? = some auftrag) : m = n ∧ auftrag = neu ∨ m ≠ n ∧ auftraege[m]? = some auftrag := by
  by_cases same : m = n
  · subst same
    rw [List.getElem?_set_self'] at found
    obtain ⟨_, -, equal⟩ := Option.map_eq_some_iff.mp found
    exact .inl ⟨rfl, equal.symm⟩
  · rw [List.getElem?_set_ne (Ne.symm same)] at found
    exact .inr ⟨same, found⟩

theorem Wirkung.sound (wirkung : Wirkung w s w') (sound : w.Sound) (rechtzeitig : Rechtzeitig w s) : w'.Sound := by
  cases wirkung with
  | nichts => exact sound
  | geplant zeile =>
    refine ⟨sound.ids.append rfl, sound.bekannt, sound.frisch, fun n auftrag found inhaber => ?_⟩
    refine (sound.laufend n auftrag found inhaber).imp id fun ⟨old, stored, claimed⟩ => ⟨old, ?_, claimed⟩
    rw [World.zeile?, List.find?_append, show w.zeilen.find? (·.id == auftrag.zeileId) = some old from stored]
    rfl
  | gestartet zeileId now =>
    have split : ∀ n auftrag, (w.auftraege ++ [({ zeileId := zeileId, now := now } : Auftrag)])[n]? = some auftrag →
        w.auftraege[n]? = some auftrag ∨ w.auftraege.length ≤ n := by
      intro n auftrag found
      by_cases old : n < w.auftraege.length
      · rw [List.getElem?_append_left old] at found
        exact .inl found
      · exact .inr (Nat.not_lt.mp old)
    refine ⟨sound.ids, fun anspruch member => ?_, fun n auftrag found frisch anspruch member => ?_,
      fun n auftrag found inhaber => ?_⟩
    · rw [List.length_append]
      exact (sound.bekannt anspruch member).trans_le (Nat.le_add_right ..)
    · rcases split n auftrag found with old | new
      · exact sound.frisch n auftrag old frisch anspruch member
      · exact ((sound.bekannt anspruch member).trans_le new).ne
    · rcases split n auftrag found with old | new
      · exact sound.laufend n auftrag old inhaber
      · obtain ⟨anspruch, member, equal⟩ := Option.map_eq_some_iff.mp inhaber
        have bound := sound.bekannt anspruch (List.mem_of_find?_eq_some member)
        omega
  | @beansprucht n umstand auftrag found phase hit =>
    have keeps : ∀ zeile : BreathingZustellung, (Notify.beansprucht auftrag.now zeile).id = zeile.id := fun _ => rfl
    obtain ⟨zeile, member, own, due⟩ := hit
    have stored : w.zeilen.find? (·.id == auftrag.zeileId) = some zeile := own ▸ sound.ids.find?_of_mem member
    refine ⟨sound.ids.of_map (Relational.map_update keeps _), ?_, ?_, ?_⟩
    · intro anspruch inside
      rw [List.length_set]
      rcases List.mem_cons.mp inside with rfl | old
      · exact (List.getElem?_eq_some_iff.mp found).1
      · exact sound.bekannt anspruch old
    · intro m other stands frisch anspruch inside
      rcases getElem?_setze stands with ⟨-, rfl⟩ | ⟨different, stood⟩
      · cases frisch
      · rcases List.mem_cons.mp inside with rfl | old
        · exact fun same => different same.symm
        · exact sound.frisch m other stood frisch anspruch old
    · intro m other stands inhaber
      rw [inhaber_cons] at inhaber
      by_cases sameRow : auftrag.zeileId = other.zeileId
      · refine .inr ⟨Notify.beansprucht auftrag.now zeile, ?_, rfl⟩
        rw [World.zeile?, ← sameRow, find?_update_own keeps stored, own, beq_self_eq_true, due]
        rfl
      · rw [if_neg sameRow] at inhaber
        rcases getElem?_setze stands with ⟨-, rfl⟩ | ⟨different, stood⟩
        · exact absurd rfl sameRow
        · refine (sound.laufend m other stood inhaber).imp id fun held => Beansprucht.of_zeile held ?_
          refine find?_update_other (fun old hits same => ?_) keeps
          rw [Bool.and_eq_true, beq_iff_eq] at hits
          exact sameRow (hits.1.symm.trans same)
  | @bewegt s n auftrag phase found begonnen weiter =>
    refine ⟨sound.ids, ?_, ?_, ?_⟩
    · intro anspruch inside
      rw [World.setze, List.length_set]
      exact sound.bekannt anspruch inside
    · intro m other stands frisch
      rcases getElem?_setze stands with ⟨-, rfl⟩ | ⟨-, stood⟩
      · exact absurd frisch begonnen
      · exact sound.frisch m other stood frisch
    · intro m other stands inhaber
      rcases getElem?_setze stands with ⟨rfl, rfl⟩ | ⟨-, stood⟩
      · rcases weiter with done | ⟨going, -⟩
        · exact .inl done
        · exact .inr ((sound.laufend m auftrag found inhaber).resolve_left going)
      · exact sound.laufend m other stood inhaber
  | @abgeschlossen n umstand auftrag gelesen neu found schreibt =>
    have keeps : ∀ zeile : BreathingZustellung, (BreathingZustellung.flush gelesen neu zeile).id = zeile.id := fun _ => rfl
    have eigen : w.inhaber auftrag.zeileId = some n := rechtzeitig auftrag found (schreibt ▸ rfl)
    refine ⟨sound.ids.of_map (Relational.map_update keeps _), ?_, ?_, ?_⟩
    · intro anspruch inside
      rw [World.setze, List.length_set]
      exact sound.bekannt anspruch inside
    · intro m other stands frisch
      rcases getElem?_setze stands with ⟨-, rfl⟩ | ⟨-, stood⟩
      · cases frisch
      · exact sound.frisch m other stood frisch
    · intro m other stands inhaber
      rcases getElem?_setze stands with ⟨-, rfl⟩ | ⟨different, stood⟩
      · exact .inl rfl
      · have otherRow : other.zeileId ≠ auftrag.zeileId := by
          intro same
          have claimed : w.inhaber other.zeileId = some m := inhaber
          rw [same, eigen] at claimed
          exact different (Option.some.inj claimed).symm
        refine (sound.laufend m other stood inhaber).imp id fun held => Beansprucht.of_zeile held ?_
        refine find?_update_other (fun old hits same => ?_) keeps
        exact otherRow (same.symm.trans (beq_iff_eq.mp hits))

theorem Wirkung.sent (wirkung : Wirkung w s w') (sound : w.Sound) (rechtzeitig : Rechtzeitig w s)
    {zeile : BreathingZustellung} (stored : w.zeile? id = some zeile) (sent : zeile.status = .sent) :
    w'.zeile? id = some zeile ∧ w'.ansprueche.filter (·.1 == id) = w.ansprueche.filter (·.1 == id) := by
  cases wirkung with
  | nichts | gestartet | bewegt => exact ⟨stored, rfl⟩
  | geplant neu =>
    refine ⟨?_, rfl⟩
    have found : w.zeilen.find? (·.id == id) = some zeile := stored
    rw [World.zeile?, List.find?_append, found]
    rfl
  | @beansprucht n umstand auftrag found phase hit =>
    have keeps : ∀ zeile : BreathingZustellung, (Notify.beansprucht auftrag.now zeile).id = zeile.id := fun _ => rfl
    obtain ⟨due, member, own, isDue⟩ := hit
    have other : auftrag.zeileId ≠ id := by
      intro same
      have found : w.zeilen.find? (·.id == id) = some due := same ▸ own ▸ sound.ids.find?_of_mem member
      rw [World.zeile?, found] at stored
      cases stored
      simp [faellig, sent] at isDue
    constructor
    · refine (find?_update_other (fun old hits same => ?_) keeps).trans stored
      rw [Bool.and_eq_true, beq_iff_eq] at hits
      exact other (hits.1.symm.trans same)
    · exact List.filter_cons_of_neg (by simpa using other)
  | @abgeschlossen n umstand auftrag gelesen neu found schreibt =>
    have keeps : ∀ zeile : BreathingZustellung, (BreathingZustellung.flush gelesen neu zeile).id = zeile.id := fun _ => rfl
    have eigen : w.inhaber auftrag.zeileId = some n := rechtzeitig auftrag found (schreibt ▸ rfl)
    have other : auftrag.zeileId ≠ id := by
      intro same
      rcases sound.laufend n auftrag found eigen with done | ⟨held, heldStored, claimed⟩
      · simp [abschluss, done] at schreibt
      · rw [same, stored] at heldStored
        cases heldStored
        rw [sent] at claimed
        cases claimed
    refine ⟨(find?_update_other (fun old hits same => ?_) keeps).trans stored, rfl⟩
    exact other ((beq_iff_eq.mp hits).symm.trans same)

theorem Wirkung.abgeloest {n : Nat} {umstand : Umstand} (wirkung : Wirkung w (.weiter n umstand) w') (sound : w.Sound)
    (rechtzeitig : Rechtzeitig w (.weiter n umstand)) {auftrag : Auftrag} (found : w.auftraege[n]? = some auftrag)
    (claimed : (auftrag.zeileId, n) ∈ w.ansprueche) (lost : w.inhaber auftrag.zeileId ≠ some n) :
    w'.zeilen = w.zeilen := by
  cases wirkung with
  | nichts | bewegt => rfl
  | beansprucht stands phase =>
    cases stands.symm.trans found
    exact absurd rfl (sound.frisch n auftrag found phase (auftrag.zeileId, n) claimed)
  | abgeschlossen stands schreibt =>
    cases stands.symm.trans found
    exact absurd (rechtzeitig auftrag found (schreibt ▸ rfl)) lost

structure World.Anfang (w : World) : Prop where
  ids : Relational.Numbered BreathingZustellung.id w.zeilen
  ruhig : w.auftraege = []
  frei : w.ansprueche = []

theorem World.Anfang.sound (anfang : w.Anfang) : w.Sound where
  ids := anfang.ids
  bekannt := by
    rw [anfang.frei]
    exact fun _ none => absurd none List.not_mem_nil
  frisch := by
    rw [anfang.frei]
    exact fun _ _ _ _ _ none => absurd none List.not_mem_nil
  laufend := by
    rw [anfang.ruhig]
    exact fun n auftrag none => by cases none

theorem World.Sound.lauf (sound : w.Sound) {schritte : List Schritt}
    (rechtzeitig : Transition.Meets schritt Rechtzeitig w schritte) : (lauf w schritte).Sound :=
  Transition.run_induction World.Sound (fun w s held inTime => (schritt_wirkung w s).sound held inTime) sound rechtzeitig

theorem World.Sound.sent_lauf (sound : w.Sound) {schritte : List Schritt}
    (rechtzeitig : Transition.Meets schritt Rechtzeitig w schritte) {zeile : BreathingZustellung}
    (stored : w.zeile? id = some zeile) (sent : zeile.status = .sent) :
    (Notify.lauf w schritte).zeile? id = some zeile ∧
      (Notify.lauf w schritte).ansprueche.filter (·.1 == id) = w.ansprueche.filter (·.1 == id) := by
  induction schritte generalizing w with
  | nil => exact ⟨stored, rfl⟩
  | cons s rest ih =>
    have wirkung := schritt_wirkung w s
    obtain ⟨still, unclaimed⟩ := wirkung.sent sound rechtzeitig.1 stored sent
    obtain ⟨later, unclaimed'⟩ := ih (wirkung.sound sound rechtzeitig.1) rechtzeitig.2 still
    exact ⟨later, unclaimed'.trans unclaimed⟩

/-- In a run in which no work completes a row after another has claimed it, a
row that was sent stays as it is and is not claimed again, and work that has lost
its claim does not change the row. -/
theorem zustellung_einmal (anfang : w.Anfang) {schritte : List Schritt}
    (rechtzeitig : Transition.Meets schritt Rechtzeitig w schritte) :
    (∀ before after, schritte = before ++ after → ∀ id zeile, (lauf w before).zeile? id = some zeile →
      zeile.status = .sent → (lauf w schritte).zeile? id = some zeile ∧
        (lauf w schritte).ansprueche.filter (·.1 == id) = (lauf w before).ansprueche.filter (·.1 == id)) ∧
    ∀ before n umstand after auftrag, schritte = before ++ .weiter n umstand :: after →
      (lauf w before).auftraege[n]? = some auftrag → (auftrag.zeileId, n) ∈ (lauf w before).ansprueche →
      (lauf w before).inhaber auftrag.zeileId ≠ some n →
      (lauf w (before ++ [.weiter n umstand])).zeilen = (lauf w before).zeilen := by
  constructor
  · rintro before after rfl id zeile stored sent
    obtain ⟨early, late⟩ := Transition.meets_append.mp rechtzeitig
    rw [lauf, Transition.run_append]
    exact (anfang.sound.lauf early).sent_lauf late stored sent
  · rintro before n umstand after auftrag rfl found claimed lost
    obtain ⟨early, late⟩ := Transition.meets_append.mp rechtzeitig
    have sound := anfang.sound.lauf early
    rw [lauf, Transition.run_append]
    exact (schritt_wirkung _ _).abgeloest sound late.1 found claimed lost

namespace ZweiWorker

def world : World where
  zeilen := [{ id := 1, warnungId := 1, stufe := 0, kanal := .sms, userId := some 1, empfaengerLabel := none
               naechsterVersuchAt := some 0 }]

def umstand (fehlerklasse : Option String) : Umstand where
  lage :=
    { warnung := some { id := 1, incidentId := 1, troopId := 1, zyklusStart := none, kind := .withdraw, ausgeloestAt := 0 }
      incident := some { id := 1, primaryOrgId := some 1 }
      troop := some 1
      user := some { id := 1, orgId := some 1, active := true, phone := some "+43", displayName := "EL" }
      smsAn := true }
  fehlerklasse := fehlerklasse

def versandt : List Schritt :=
  [.starte 1 0, .weiter 0 (umstand none), .weiter 0 (umstand none), .weiter 0 (umstand none)]

/-- Two minutes later a second worker claims the row, sends its SMS and completes it. -/
def uebernommen : List Schritt :=
  [.starte 1 (minuten 2), .weiter 1 (umstand none), .weiter 1 (umstand none), .weiter 1 (umstand none),
    .weiter 1 (umstand none), .weiter 1 (umstand none)]

def verspaetet : List Schritt :=
  [.weiter 0 (umstand (some "TimeoutError")), .weiter 0 (umstand none)]

theorem anfang : world.Anfang := ⟨rfl, rfl, rfl⟩

end ZweiWorker

/-- A worker dies after its SMS, a second one takes the row over and sends it: both
are in time, and the row stays as the second has left it. -/
theorem zustellung_einmal_uebernommen :
    (lauf ZweiWorker.world (ZweiWorker.versandt ++ .stirb 0 :: ZweiWorker.uebernommen)).ansprueche = [(1, 1), (1, 0)] ∧
    (lauf ZweiWorker.world (ZweiWorker.versandt ++ .stirb 0 :: ZweiWorker.uebernommen ++
      [.starte 1 (minuten 9), .weiter 2 (ZweiWorker.umstand none)])).zeile? 1 =
      (lauf ZweiWorker.world (ZweiWorker.versandt ++ .stirb 0 :: ZweiWorker.uebernommen)).zeile? 1 := by
  have rechtzeitig : Transition.Meets schritt Rechtzeitig ZweiWorker.world
      (ZweiWorker.versandt ++ .stirb 0 :: ZweiWorker.uebernommen ++
        [.starte 1 (minuten 9), .weiter 2 (ZweiWorker.umstand none)]) := by
    decide +kernel
  have stored : ∃ zeile, (lauf ZweiWorker.world (ZweiWorker.versandt ++ .stirb 0 :: ZweiWorker.uebernommen)).zeile? 1 =
      some zeile ∧ zeile.status = .sent :=
    ⟨_, rfl, rfl⟩
  obtain ⟨zeile, found, sent⟩ := stored
  have final := (zustellung_einmal ZweiWorker.anfang rechtzeitig).1 _ _ rfl 1 zeile found sent
  exact ⟨by decide +kernel, final.1.trans found.symm⟩

/-- The row is sent, and the late failure of the first worker sets it back. -/
theorem verspaeteter_fehler :
    ((lauf ZweiWorker.world (ZweiWorker.versandt ++ ZweiWorker.uebernommen)).zeile? 1).map (·.status) = some .sent ∧
    ((lauf ZweiWorker.world (ZweiWorker.versandt ++ ZweiWorker.uebernommen ++ ZweiWorker.verspaetet)).zeile? 1).map
      (·.status) = some .pending := by
  decide +kernel

end Einsatzcockpit.Notify
