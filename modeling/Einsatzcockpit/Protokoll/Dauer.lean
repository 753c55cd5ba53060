import Einsatzcockpit.Lib.Table
import Einsatzcockpit.Protokoll.Abgleich

namespace Einsatzcockpit.Protokoll

structure Beschriftet (e e' : Eintrag) : Prop where
  gleich : { e' with text := e.text } = e
  text : ∃ dauer, e'.text = e.text ++ dauer

namespace Beschriftet

theorem refl (e : Eintrag) : Beschriftet e e := ⟨rfl, "", by rw [String.append_empty]⟩

theorem trans {e e' e'' : Eintrag} (first : Beschriftet e e') (second : Beschriftet e' e'') : Beschriftet e e'' := by
  obtain ⟨same, dauer, text⟩ := first
  obtain ⟨same', dauer', text'⟩ := second
  refine ⟨?_, dauer ++ dauer', by rw [text', text, String.append_assoc]⟩
  rw [← same, ← same']

theorem zyklus {e e' : Eintrag} (labelled : Beschriftet e e') : e'.zyklus = e.zyklus := by
  rw [← labelled.gleich]

theorem zeit {e e' : Eintrag} (labelled : Beschriftet e e') : e'.zeit = e.zeit := by
  rw [← labelled.gleich]

theorem mit (e : Eintrag) (dauer : String) : Beschriftet e { e with text := e.text ++ dauer } := ⟨rfl, dauer, rfl⟩

end Beschriftet

def situationen : List String := ["Funkverlust", "Notfall"]

/-- The event a situation has begun with is there, and its cycle. -/
structure Belegt (zyklen : Nat) (events : List Eintrag) (begonnen : (Nat × String) × Zeit) : Prop where
  name : begonnen.1.2 ∈ situationen
  zyklus : begonnen.1.1 - 1 < zyklen
  beginn : ∃ e ∈ events, e.zyklus = begonnen.1.1 ∧ e.zeit = begonnen.2 ∧ e.text = s!"{begonnen.1.2} gesetzt"

structure Offen (zyklen : Nat) (events : List Eintrag) (starts : Starts) : Prop where
  belegt : ∀ begonnen ∈ starts, Belegt zyklen events begonnen
  einmal : (starts.map (·.1)).Nodup

section Schritt

variable {zyklen : Nat} {events vorher : List Eintrag} {e : Eintrag} {starts : Starts} {label : String}

theorem Offen.mono (offen : Offen zyklen vorher starts) (inside : ∀ e ∈ vorher, e ∈ events) : Offen zyklen events starts := by
  refine ⟨fun begonnen member => ?_, offen.einmal⟩
  obtain ⟨name, zyklus, e, known, begins⟩ := offen.belegt begonnen member
  exact ⟨name, zyklus, e, inside e known, begins⟩

theorem dauerSchritt_beschriftet (lauf : Eintrag × Starts) (label : String) : Beschriftet lauf.1 (dauerSchritt lauf label).1 := by
  unfold dauerSchritt
  simp only
  split
  · exact .refl _
  · split
    · split
      · exact .mit _ _
      · exact .refl _
    · exact .refl _

theorem gesetzt_ne_aufgehoben : ∀ begonnen ∈ situationen, ∀ label ∈ situationen,
    (s!"{begonnen} gesetzt" : String) ≠ s!"{label} aufgehoben" := by decide

theorem gesetzt_inj : ∀ begonnen ∈ situationen, ∀ label ∈ situationen,
    (s!"{begonnen} gesetzt" : String) = s!"{label} gesetzt" → begonnen = label := by decide

theorem lookup_eq_none {key : Nat × String} (missing : (starts.lookup key).isSome = false) : key ∉ starts.map (·.1) := by
  intro member
  obtain ⟨begonnen, inside, rfl⟩ := List.mem_map.mp member
  have unknown : starts.lookup begonnen.1 = none := by
    cases seen : starts.lookup begonnen.1 with
    | none => rfl
    | some start => rw [seen] at missing; cases missing
  exact bne_iff_ne.mp (List.lookup_eq_none_iff.mp unknown begonnen inside) rfl

theorem dauerSchritt_offen (offen : Offen zyklen (vorher ++ [e]) starts) (cycle : e.zyklus - 1 < zyklen) (known : label ∈ situationen) :
    Offen zyklen (vorher ++ [(dauerSchritt (e, starts) label).1]) (dauerSchritt (e, starts) label).2 := by
  unfold dauerSchritt
  simp only
  split
  · next begins =>
    cases seen : (starts.lookup (e.zyklus, label)).isSome with
    | true => exact offen
    | false =>
      refine ⟨fun begonnen member => ?_, ?_⟩
      · rcases List.mem_append.mp member with old | new
        · exact offen.belegt begonnen old
        · cases List.mem_singleton.mp new
          exact ⟨known, cycle, e, List.mem_append_right _ (List.mem_singleton_self e), rfl, rfl, begins⟩
      · rw [if_neg Bool.false_ne_true, List.map_append]
        refine List.nodup_append.mpr ⟨offen.einmal, List.nodup_singleton _, fun a old b new same => ?_⟩
        cases same
        cases List.mem_singleton.mp new
        exact lookup_eq_none seen old
  · split
    · next ends =>
      split
      · refine ⟨fun begonnen member => ?_, offen.einmal.sublist (List.filter_sublist.map _)⟩
        obtain ⟨name, zyklus, e', inside, ofCycle, atTime, text⟩ := offen.belegt begonnen (List.mem_of_mem_filter member)
        rcases List.mem_append.mp inside with before | last
        · exact ⟨name, zyklus, e', List.mem_append_left _ before, ofCycle, atTime, text⟩
        · -- an event that ends a situation has begun none
          rw [List.mem_singleton.mp last, ends] at text
          exact absurd text.symm (gesetzt_ne_aufgehoben _ name label known)
      · exact offen
    · exact offen

theorem schritte_offen (offen : Offen zyklen vorher starts) (cycle : e.zyklus - 1 < zyklen) (labels : List String)
    (known : ∀ label ∈ labels, label ∈ situationen) :
    Offen zyklen (vorher ++ [(labels.foldl dauerSchritt (e, starts)).1]) (labels.foldl dauerSchritt (e, starts)).2 ∧
      Beschriftet e (labels.foldl dauerSchritt (e, starts)).1 := by
  have start : Offen zyklen (vorher ++ [e]) starts := offen.mono fun _ => List.mem_append_left _
  clear offen
  induction labels generalizing e starts with
  | nil => exact ⟨start, .refl e⟩
  | cons label rest ih =>
    have labelled := dauerSchritt_beschriftet (e, starts) label
    have same : (dauerSchritt (e, starts) label).1.zyklus = e.zyklus := labelled.zyklus
    have next := dauerSchritt_offen start cycle (known label (List.mem_cons_self ..))
    obtain ⟨later, more⟩ := ih (by rw [same]; exact cycle) (fun label member => known label (List.mem_cons_of_mem _ member)) next
    exact ⟨later, labelled.trans more⟩

theorem beendete_spec (events : List Eintrag) (offen : Offen zyklen vorher starts) (cycles : ∀ e ∈ events, e.zyklus - 1 < zyklen) :
    List.Forall₂ Beschriftet events (beendete events starts).1 ∧
      Offen zyklen (vorher ++ (beendete events starts).1) (beendete events starts).2 := by
  induction events generalizing vorher starts with
  | nil => exact ⟨.nil, by rwa [beendete, List.append_nil]⟩
  | cons e rest ih =>
    obtain ⟨next, labelled⟩ := schritte_offen offen (cycles e (List.mem_cons_self ..)) situationen fun _ known => known
    obtain ⟨more, later⟩ := ih next fun e member => cycles e (List.mem_cons_of_mem _ member)
    refine ⟨.cons labelled more, ?_⟩
    rw [List.append_assoc] at later
    exact later

end Schritt

section Laufende

variable {cycles : List Einsatzzyklus} {events : List Eintrag} {begonnen : (Nat × String) × Zeit} {rest : Starts}

theorem beschriftet_modify (events : List Eintrag) (i : Nat) (dauer : String) :
    List.Forall₂ Beschriftet events (events.modify i fun e => { e with text := e.text ++ dauer }) := by
  rw [List.forall₂_iff_get]
  refine ⟨(List.length_modify ..).symm, fun j within within' => ?_⟩
  simp only [List.get_eq_getElem, List.getElem_modify]
  split
  · exact .mit _ _
  · exact .refl _

theorem laufende_spec (now : Zeit) (offen : Offen cycles.length events (begonnen :: rest)) :
    ∃ events', laufende now cycles events begonnen = some events' ∧ List.Forall₂ Beschriftet events events' ∧
      Offen cycles.length events' rest := by
  obtain ⟨⟨nr, label⟩, start⟩ := begonnen
  have unchanged : Offen cycles.length events rest :=
    ⟨fun other member => offen.belegt other (List.mem_cons_of_mem _ member), (List.nodup_cons.mp offen.einmal).2⟩
  obtain ⟨name, zyklus, e, known, ofCycle, atTime, text⟩ := offen.belegt _ (List.mem_cons_self ..)
  obtain ⟨c, cycle⟩ : ∃ c, cycles[nr - 1]? = some c := ⟨_, List.getElem?_eq_getElem zyklus⟩
  unfold laufende
  simp only [cycle, Option.bind_eq_bind, Option.bind_some]
  split
  · obtain ⟨i, found⟩ : ∃ i, events.findIdx? (fun e => e.zyklus == nr && e.zeit == start && e.text == s!"{label} gesetzt") = some i := by
      refine Option.isSome_iff_exists.mp ?_
      rw [List.findIdx?_isSome]
      refine List.any_eq_true.mpr ⟨e, known, ?_⟩
      simp only [Bool.and_eq_true, beq_iff_eq]
      exact ⟨⟨ofCycle, atTime⟩, text⟩
    rw [found, Option.bind_some]
    refine ⟨_, rfl, beschriftet_modify _ _ _, fun other member => ?_, unchanged.einmal⟩
    obtain ⟨name', zyklus', e', known', ofCycle', atTime', text'⟩ := unchanged.belegt other member
    refine ⟨name', zyklus', e', ?_, ofCycle', atTime', text'⟩
    obtain ⟨j, place⟩ := List.mem_iff_getElem?.mp known'
    refine List.mem_of_getElem? (i := j) ?_
    -- the event of another situation is another event
    have elsewhere : i ≠ j := by
      intro same
      subst same
      obtain ⟨within, keys, -⟩ := List.findIdx?_eq_some_iff_getElem.mp found
      rw [(List.getElem?_eq_some_iff.mp place).2] at keys
      simp only [Bool.and_eq_true, beq_iff_eq] at keys
      have sameName := gesetzt_inj _ name' _ name (text'.symm.trans keys.2)
      have sameKey : other.1 = (nr, label) := Prod.ext (ofCycle'.symm.trans keys.1.1) sameName
      have again : other.1 ∈ rest.map (·.1) := List.mem_map_of_mem member
      rw [sameKey] at again
      exact (List.nodup_cons.mp offen.einmal).1 again
    rw [List.getElem?_modify, place, Option.map_eq_map, Option.map_some, if_neg elsewhere]
  · exact ⟨events, rfl, List.forall₂_same.mpr fun e _ => .refl e, unchanged⟩

theorem foldlM_laufende (now : Zeit) (starts : Starts) (offen : Offen cycles.length events starts) :
    ∃ events', starts.foldlM (laufende now cycles) events = some events' ∧ List.Forall₂ Beschriftet events events' := by
  induction starts generalizing events with
  | nil => exact ⟨events, rfl, List.forall₂_same.mpr fun e _ => .refl e⟩
  | cons begonnen rest ih =>
    obtain ⟨events', first, labelled, later⟩ := laufende_spec now offen
    obtain ⟨events'', last, more⟩ := ih later
    refine ⟨events'', by rw [List.foldlM_cons, first]; exact last, ?_⟩
    exact Relational.forall₂_trans (R := Beschriftet) Beschriftet.trans labelled more

end Laufende

end Einsatzcockpit.Protokoll
