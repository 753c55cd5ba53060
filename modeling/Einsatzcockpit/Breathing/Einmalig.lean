import Einsatzcockpit.Breathing.Cycle
import Einsatzcockpit.Breathing.Ereignis

namespace Einsatzcockpit.Breathing

open Transition Unique

variable {κ : Type} {fl : Gleitkomma} {kollation : String → κ} {fromisoformat : String → Option Zeit}
  {lockWait : Zeit} {verschmelze : BreathingTroop → BreathingTroop → BreathingTroop → BreathingTroop}

/-- The row was claimed for the event, at a time its `erfasst_at` allows. -/
structure Zu (fromisoformat : String → Option Zeit) (ereignis : Ereignis) (row : BreathingClientEvent) : Prop where
  incidentId : row.incidentId = ereignis.incidentId
  clientEventId : ereignis.clientEventId = some row.clientEventId
  parsed : parseErfasstAt fromisoformat ereignis.erfasstAt row.empfangenAt = .ok (row.erfasstAt, row.nachgetragen)

def Spaet (kollation : String → κ) (lockWait : Zeit) (welt : Welt) (row : BreathingClientEvent) : Prop :=
  ∀ buchung ∈ welt.buchungen, ∀ other, buchung.row = some other →
    other.schluessel kollation = row.schluessel kollation → other.empfangenAt + aufbewahrung < row.empfangenAt + lockWait

/-- A request holds the claim of its event, and none if it has no id. -/
structure Getragen (kollation : String → κ) (fromisoformat : String → Option Zeit) (lockWait : Zeit) (welt : Welt)
    (s : Nat) (ereignis : Ereignis) : Prop where
  claimed : ereignis.clientEventId.isSome → ∃ row, (s, row) ∈ welt.claims.held
  held : ∀ row, (s, row) ∈ welt.claims.held →
    Zu fromisoformat ereignis row ∧ row.empfangenAt ≤ welt.now ∧ Spaet kollation lockWait welt row

def Steht (fl : Gleitkomma) (kollation : String → κ) (fromisoformat : String → Option Zeit) (lockWait : Zeit)
    (welt : Welt) (s : Nat) : Sitzung → Prop
  | .frei => ∀ row, (s, row) ∉ welt.claims.held
  | .wartend ereignis row _ =>
    (∀ row, (s, row) ∉ welt.claims.held) ∧ Zu fromisoformat ereignis row ∧ row.empfangenAt ≤ welt.now
  | .beansprucht ereignis _ _ _ => Getragen kollation fromisoformat lockWait welt s ereignis
  | .ausgefuehrt ereignis gelesen neu => Getragen kollation fromisoformat lockWait welt s ereignis ∧
    ∃ umgebung ts nachgetragen,
      ereignis.eingabe.ausfuehren fl umgebung ereignis.userId ts nachgetragen gelesen = .ok neu

def Angewandt (fl : Gleitkomma) (fromisoformat : String → Option Zeit)
    (verschmelze : BreathingTroop → BreathingTroop → BreathingTroop → BreathingTroop) (buchung : Buchung) : Prop :=
  ∀ ereignis, buchung.ereignis = some ereignis →
    (∃ umgebung ts nachgetragen gelesen neu,
      ereignis.eingabe.ausfuehren fl umgebung ereignis.userId ts nachgetragen gelesen = .ok neu ∧
        buchung.troopId = ereignis.troopId ∧ buchung.wirkung = Option.map (verschmelze gelesen neu)) ∧
      (ereignis.clientEventId.isSome → buchung.row.isSome) ∧
      ∀ row, buchung.row = some row → Zu fromisoformat ereignis row

def Welt.ausBuchungen (welt : Welt) (start : Nat → Option BreathingTroop) : Nat → Option BreathingTroop :=
  welt.buchungen.foldl
    (fun troops buchung => Function.update troops buchung.troopId (buchung.wirkung (troops buchung.troopId))) start

/-- Two bookings of one event, the later one past the retention of the first. -/
def Verspaetet (kollation : String → κ) (lockWait : Zeit) (first second : Buchung) : Prop :=
  ∀ row other, first.row = some row → second.row = some other →
    row.schluessel kollation = other.schluessel kollation → row.empfangenAt + aufbewahrung < other.empfangenAt + lockWait

variable (fl kollation fromisoformat lockWait verschmelze) in
structure Gueltig (start : Nat → Option BreathingTroop) (welt : Welt) : Prop where
  sound : welt.claims.Sound (·.schluessel kollation)
  sitzung : ∀ s, Steht fl kollation fromisoformat lockWait welt s (welt.sitzungen s)
  belegt : ∀ buchung ∈ welt.buchungen, ∀ row, buchung.row = some row →
    row ∈ welt.claims.rows ∨ row.empfangenAt + aufbewahrung < welt.now
  angewandt : ∀ buchung ∈ welt.buchungen, Angewandt fl fromisoformat verschmelze buchung
  einzeln : welt.buchungen.Pairwise (Verspaetet kollation lockWait)
  db : welt.troops = welt.ausBuchungen start

variable {welt : Welt} {s : Nat} {ereignis : Ereignis} {start : Nat → Option BreathingTroop}

theorem Getragen.frame {welt' : Welt}
    (getragen : Getragen kollation fromisoformat lockWait welt s ereignis)
    (held : ∀ row, (s, row) ∈ welt'.claims.held ↔ (s, row) ∈ welt.claims.held) (now : welt.now ≤ welt'.now)
    (spaet : ∀ row, (s, row) ∈ welt.claims.held → Spaet kollation lockWait welt row → Spaet kollation lockWait welt' row) :
    Getragen kollation fromisoformat lockWait welt' s ereignis := by
  refine ⟨fun known => ?_, fun row inside => ?_⟩
  · obtain ⟨row, inside⟩ := getragen.claimed known
    exact ⟨row, (held row).mpr inside⟩
  · have before := (held row).mp inside
    obtain ⟨zu, received, later⟩ := getragen.held row before
    exact ⟨zu, received.trans now, spaet row before later⟩

theorem Steht.frame {welt' : Welt} {sitzung : Sitzung}
    (steht : Steht fl kollation fromisoformat lockWait welt s sitzung)
    (held : ∀ row, (s, row) ∈ welt'.claims.held ↔ (s, row) ∈ welt.claims.held) (now : welt.now ≤ welt'.now)
    (spaet : ∀ row, (s, row) ∈ welt.claims.held → Spaet kollation lockWait welt row → Spaet kollation lockWait welt' row) :
    Steht fl kollation fromisoformat lockWait welt' s sitzung := by
  cases sitzung with
  | frei => exact fun row inside => steht row ((held row).mp inside)
  | wartend ereignis row gelesen =>
    exact ⟨fun row inside => steht.1 row ((held row).mp inside), steht.2.1, steht.2.2.trans now⟩
  | beansprucht ereignis ts nachgetragen gelesen => exact Getragen.frame steht held now spaet
  | ausgefuehrt ereignis gelesen neu => exact ⟨Getragen.frame steht.1 held now spaet, steht.2⟩

theorem mem_rollback {s' : Nat} (other : s' ≠ s) (table : Table BreathingClientEvent) (row : BreathingClientEvent) :
    (s', row) ∈ (table.rollback s).held ↔ (s', row) ∈ table.held :=
  List.mem_eraseP_of_neg (by simpa using other)

namespace Gueltig

variable {start : Nat → Option BreathingTroop} {welt : Welt}
  (gueltig : Gueltig fl kollation fromisoformat lockWait verschmelze start welt)

include gueltig

variable {s : Nat} {ereignis : Ereignis} {gelesen : BreathingTroop}

theorem setze {sitzung : Sitzung} (steht : Steht fl kollation fromisoformat lockWait welt s sitzung) :
    Gueltig fl kollation fromisoformat lockWait verschmelze start (welt.setze s sitzung) := by
  refine ⟨gueltig.sound, fun s' => ?_, gueltig.belegt, gueltig.angewandt, gueltig.einzeln, gueltig.db⟩
  have here : Steht fl kollation fromisoformat lockWait welt s' (Function.update welt.sitzungen s sitzung s') := by
    by_cases same : s' = s
    · subst same
      rw [Function.update_self]
      exact steht
    · rw [Function.update_of_ne same]
      exact gueltig.sitzung s'
  exact here.frame (fun _ => Iff.rfl) (le_refl _) fun _ _ spaet => spaet

theorem antworte (ereignis : Ereignis) (code : Nat) :
    Gueltig fl kollation fromisoformat lockWait verschmelze start (welt.antworte ereignis code) := by
  refine ⟨gueltig.sound, fun s => ?_, gueltig.belegt, gueltig.angewandt, gueltig.einzeln, gueltig.db⟩
  exact (gueltig.sitzung s).frame (fun _ => Iff.rfl) (le_refl _) fun _ _ spaet => spaet

theorem rollback (s : Nat) : Gueltig fl kollation fromisoformat lockWait verschmelze start (welt.rollback s) := by
  refine ⟨gueltig.sound.rollback s, fun s' => ?_, gueltig.belegt, gueltig.angewandt, gueltig.einzeln, gueltig.db⟩
  show Steht fl kollation fromisoformat lockWait (welt.rollback s) s' (Function.update welt.sitzungen s .frei s')
  by_cases same : s' = s
  · subst same
    rw [Function.update_self]
    exact gueltig.sound.not_held
  · rw [Function.update_of_ne same]
    exact (gueltig.sitzung s').frame (mem_rollback same welt.claims) (le_refl _) fun _ _ spaet => spaet

theorem uhr (vergangen : Nat) :
    Gueltig fl kollation fromisoformat lockWait verschmelze start { welt with now := welt.now + vergangen } := by
  have later : welt.now ≤ welt.now + vergangen := le_add_of_nonneg_right (Int.natCast_nonneg vergangen)
  refine ⟨gueltig.sound, fun s => ?_, fun buchung booked row claimed => ?_, gueltig.angewandt, gueltig.einzeln,
    gueltig.db⟩
  · exact (gueltig.sitzung s).frame (fun _ => Iff.rfl) later fun _ _ spaet => spaet
  · rcases gueltig.belegt buchung booked row claimed with kept | past
    · exact Or.inl kept
    · exact Or.inr (past.trans_le later)

theorem cleanup (batch : Nat) : Gueltig fl kollation fromisoformat lockWait verschmelze start
    { welt with claims := { welt.claims with rows := cleanupClientEvents welt.now batch welt.claims.rows } } := by
  have sublist : (cleanupClientEvents welt.now batch welt.claims.rows).Sublist welt.claims.rows := List.filter_sublist
  refine ⟨⟨gueltig.sound.keys.sublist ((sublist.map _).append (List.Sublist.refl _)), gueltig.sound.transactions⟩,
    fun s => ?_, fun buchung booked row claimed => ?_, gueltig.angewandt, gueltig.einzeln, gueltig.db⟩
  · exact (gueltig.sitzung s).frame (fun _ => Iff.rfl) (le_refl _) fun _ _ spaet => spaet
  · rcases gueltig.belegt buchung booked row claimed with kept | past
    · by_cases removed : row ∈ cleanupClientEvents welt.now batch welt.claims.rows
      · exact Or.inl removed
      · have old := removed
        simp only [cleanupClientEvents, List.mem_filter, kept, true_and, decide_not, Bool.not_eq_true',
          decide_eq_false_iff_not, not_not] at old
        have selected := (List.mem_insertionSort _).mp (List.mem_of_mem_take old)
        have before : row.empfangenAt < welt.now - aufbewahrung := by simpa using (List.mem_filter.mp selected).2
        exact Or.inr (lt_sub_iff_add_lt.mp before)
    · exact Or.inr past

theorem beginne (frei : welt.sitzungen s = .frei) (ereignis : Ereignis) :
    Gueltig fl kollation fromisoformat lockWait verschmelze start (beginne fromisoformat s ereignis welt) := by
  have unheld : ∀ row, (s, row) ∉ welt.claims.held := by
    have steht := gueltig.sitzung s
    rw [frei] at steht
    exact steht
  unfold Breathing.beginne
  split
  · exact gueltig.antworte ereignis 400
  · split
    · exact gueltig.antworte ereignis 404
    · split
      · exact gueltig.antworte ereignis 404
      · split
        · exact gueltig.antworte ereignis 400
        · next ts nachgetragen parsed =>
          split
          · next noId =>
            exact gueltig.setze ⟨fun known => by simp [noId] at known, fun row inside => absurd inside (unheld row)⟩
          · next clientEventId given =>
            split
            · exact gueltig.antworte ereignis 400
            · next valid accepted =>
              have same : valid = clientEventId := by
                unfold validClientEventId at accepted
                dsimp only at accepted
                split at accepted
                · exact (Except.ok.inj accepted).symm
                · cases accepted
              subst same
              have counted : Gueltig fl kollation fromisoformat lockWait verschmelze start
                  { welt with naechsteId := welt.naechsteId + 1 } := by
                refine ⟨gueltig.sound, fun s => ?_, gueltig.belegt, gueltig.angewandt, gueltig.einzeln, gueltig.db⟩
                exact (gueltig.sitzung s).frame (fun _ => Iff.rfl) (le_refl _) fun _ _ spaet => spaet
              exact counted.setze ⟨unheld, ⟨rfl, given, parsed⟩, le_refl _⟩

theorem beanspruche [DecidableEq κ] {row : BreathingClientEvent}
    (wartend : welt.sitzungen s = .wartend ereignis row gelesen) :
    Gueltig fl kollation fromisoformat lockWait verschmelze start
      (beanspruche kollation lockWait s ereignis row gelesen welt) := by
  have steht := gueltig.sitzung s
  rw [wartend] at steht
  obtain ⟨unheld, zu, received⟩ := steht
  unfold Breathing.beanspruche
  split
  · exact (gueltig.antworte ereignis 500).rollback s
  · next inTime =>
    split
    · next claims written =>
      have sound := gueltig.sound.insert (Table.row?_eq_none unheld) row
      rw [written] at sound
      obtain ⟨rows, held⟩ := Table.inserted_spec written
      have fresh : ∀ other ∈ welt.claims.rows, other.schluessel kollation ≠ row.schluessel kollation := by
        intro other inside same
        have keys := sound.keys
        rw [rows, held, List.map_append, List.map_singleton, List.nodup_append] at keys
        exact keys.2.2 _ (List.mem_map_of_mem inside) _ (List.mem_append_right _ (List.mem_singleton_self _)) same
      have spaet : Spaet kollation lockWait welt row := by
        intro buchung booked other claimed same
        rcases gueltig.belegt buchung booked other claimed with kept | past
        · exact absurd same (fresh other kept)
        · exact past.trans_le (sub_le_iff_le_add'.mp (not_lt.mp inTime))
      have others : ∀ s' ≠ s, ∀ entry, (s', entry) ∈ claims.held ↔ (s', entry) ∈ welt.claims.held := by
        intro s' other entry
        rw [held, List.mem_append, List.mem_singleton]
        exact ⟨fun inside => inside.resolve_right fun new => other (congrArg Prod.fst new), Or.inl⟩
      refine ⟨sound, fun s' => ?_, ?_, gueltig.angewandt, gueltig.einzeln, gueltig.db⟩
      · show Steht fl kollation fromisoformat lockWait _ s' (Function.update welt.sitzungen s _ s')
        by_cases same : s' = s
        · subst same
          rw [Function.update_self]
          have mine : (s', row) ∈ claims.held := held ▸ List.mem_append_right _ (List.mem_singleton_self _)
          refine ⟨fun _ => ⟨row, mine⟩, fun entry inside => ?_⟩
          have entries : (s', entry) ∈ claims.held := inside
          rw [held] at entries
          rcases List.mem_append.mp entries with old | new
          · exact absurd old (unheld entry)
          · cases List.mem_singleton.mp new
            exact ⟨zu, received, spaet⟩
        · rw [Function.update_of_ne same]
          exact (gueltig.sitzung s').frame (others s' same) (le_refl _) fun _ _ spaet => spaet
      · show ∀ buchung ∈ welt.buchungen, ∀ other, buchung.row = some other →
          other ∈ claims.rows ∨ other.empfangenAt + aufbewahrung < welt.now
        rw [rows]
        exact gueltig.belegt
    · exact (gueltig.antworte ereignis _).rollback s
    · exact gueltig

theorem fuehreAus {ts : Zeit} {nachgetragen : Bool}
    (beansprucht : welt.sitzungen s = .beansprucht ereignis ts nachgetragen gelesen) (umgebung : Umgebung) :
    Gueltig fl kollation fromisoformat lockWait verschmelze start
      (fuehreAus fl s umgebung ereignis ts nachgetragen gelesen welt) := by
  have steht := gueltig.sitzung s
  rw [beansprucht] at steht
  unfold Breathing.fuehreAus
  split
  · exact (gueltig.antworte ereignis _).rollback s
  · next neu accepted => exact gueltig.setze ⟨steht, umgebung, ts, nachgetragen, accepted⟩

theorem held_distinct {s' : Nat} {row row' : BreathingClientEvent} (mine : (s, row) ∈ welt.claims.held)
    (other : (s', row') ∈ welt.claims.held) (apart : s ≠ s') : row.schluessel kollation ≠ row'.schluessel kollation := by
  intro same
  have keys := (List.nodup_append.mp gueltig.sound.keys).2.1
  have equal := List.inj_on_of_nodup_map keys mine other same
  exact apart (congrArg Prod.fst equal)

theorem ausBuchungen_buche (buchung : Buchung) :
    Function.update welt.troops buchung.troopId (buchung.wirkung (welt.troops buchung.troopId)) =
      (welt.buche buchung).ausBuchungen start := by
  have db := gueltig.db
  unfold Welt.ausBuchungen Welt.buche at *
  rw [List.foldl_append, ← db]
  rfl

theorem schliesseAb {neu : BreathingTroop}
    (ausgefuehrt : welt.sitzungen s = .ausgefuehrt ereignis gelesen neu) :
    Gueltig fl kollation fromisoformat lockWait verschmelze start
      (schliesseAb verschmelze s ereignis gelesen neu welt) := by
  have steht := gueltig.sitzung s
  rw [ausgefuehrt] at steht
  obtain ⟨getragen, umgebung, ts, nachgetragen, accepted⟩ := steht
  let buchung : Buchung :=
    ⟨some ereignis, welt.claims.row? s, ereignis.troopId, Option.map (verschmelze gelesen neu)⟩
  have rows : (welt.claims.commit s).rows = welt.claims.rows ++ (welt.claims.row? s).toList := rfl
  have mine : ∀ row, buchung.row = some row → (s, row) ∈ welt.claims.held := fun row written => Table.mem_of_row? written
  have angewandt : Angewandt fl fromisoformat verschmelze buchung := by
    intro event isEvent
    cases isEvent
    refine ⟨⟨umgebung, ts, nachgetragen, gelesen, neu, accepted, rfl, rfl⟩, fun known => ?_, fun row written => ?_⟩
    · obtain ⟨row, inside⟩ := getragen.claimed known
      exact Option.isSome_iff_exists.mpr ⟨row, Table.row?_of_mem gueltig.sound.transactions inside⟩
    · exact (getragen.held row (mine row written)).1
  have later : ∀ first ∈ welt.buchungen, Verspaetet kollation lockWait first buchung := by
    intro first booked row other claimed written same
    exact (getragen.held other (mine other written)).2.2 first booked row claimed same
  have booked : Gueltig fl kollation fromisoformat lockWait verschmelze start
      (({ welt with claims := welt.claims.commit s }.buche buchung).setze s .frei) := by
    refine ⟨gueltig.sound.commit s, fun s' => ?_, fun other known row claimed => ?_, fun other known => ?_, ?_, ?_⟩
    · show Steht fl kollation fromisoformat lockWait _ s' (Function.update welt.sitzungen s _ s')
      by_cases same : s' = s
      · subst same
        rw [Function.update_self]
        exact gueltig.sound.not_held
      · rw [Function.update_of_ne same]
        refine (gueltig.sitzung s').frame (mem_rollback same welt.claims) (le_refl _) fun row held spaet => ?_
        intro other known entry claimed equal
        rcases List.mem_append.mp known with old | new
        · exact spaet other old entry claimed equal
        · rw [List.mem_singleton.mp new] at claimed
          exact absurd equal (gueltig.held_distinct (mine entry claimed) held (Ne.symm same))
    · show row ∈ (welt.claims.commit s).rows ∨ row.empfangenAt + aufbewahrung < welt.now
      rw [rows]
      rcases List.mem_append.mp known with old | new
      · rcases gueltig.belegt other old row claimed with kept | past
        · exact Or.inl (List.mem_append_left _ kept)
        · exact Or.inr past
      · rw [List.mem_singleton.mp new] at claimed
        have written : welt.claims.row? s = some row := claimed
        exact Or.inl (List.mem_append_right _ (by simp [written]))
    · rcases List.mem_append.mp known with old | new
      · exact gueltig.angewandt other old
      · rw [List.mem_singleton.mp new]
        exact angewandt
    · refine List.pairwise_append.mpr ⟨gueltig.einzeln, List.pairwise_singleton _ _, fun first old second new => ?_⟩
      rw [List.mem_singleton.mp new]
      exact later first old
    · exact gueltig.ausBuchungen_buche buchung
  exact booked.antworte ereignis ereignis.eingabe.erfolg

theorem anderes (troopId : Nat) (wirkung : Option BreathingTroop → Option BreathingTroop) :
    Gueltig fl kollation fromisoformat lockWait verschmelze start (welt.buche ⟨none, none, troopId, wirkung⟩) := by
  refine ⟨gueltig.sound, fun s => ?_, fun other known row claimed => ?_, fun other known => ?_, ?_, ?_⟩
  · refine (gueltig.sitzung s).frame (fun _ => Iff.rfl) (le_refl _) fun row _ spaet other known entry claimed => ?_
    rcases List.mem_append.mp known with old | new
    · exact spaet other old entry claimed
    · rw [List.mem_singleton.mp new] at claimed
      cases claimed
  · rcases List.mem_append.mp known with old | new
    · exact gueltig.belegt other old row claimed
    · rw [List.mem_singleton.mp new] at claimed
      cases claimed
  · rcases List.mem_append.mp known with old | new
    · exact gueltig.angewandt other old
    · rw [List.mem_singleton.mp new]
      exact nofun
  · refine List.pairwise_append.mpr ⟨gueltig.einzeln, List.pairwise_singleton _ _, fun first old second new => ?_⟩
    rw [List.mem_singleton.mp new]
    exact nofun
  · exact gueltig.ausBuchungen_buche _

end Gueltig

variable (fl kollation fromisoformat lockWait verschmelze) in
theorem schritt_gueltig [DecidableEq κ]
    (gueltig : Gueltig fl kollation fromisoformat lockWait verschmelze start welt) (aktion : Schritt) :
    Gueltig fl kollation fromisoformat lockWait verschmelze start
      (schritt fl kollation fromisoformat lockWait verschmelze welt aktion) := by
  cases aktion with
  | uhr vergangen => exact gueltig.uhr vergangen
  | beginne s ereignis =>
    simp only [schritt]
    split
    · next frei => exact gueltig.beginne frei ereignis
    · exact gueltig
  | beanspruche s =>
    simp only [schritt]
    split
    · next wartend => exact gueltig.beanspruche wartend
    · exact gueltig
  | fuehreAus s umgebung =>
    simp only [schritt]
    split
    · next beansprucht => exact gueltig.fuehreAus beansprucht umgebung
    · exact gueltig
  | schliesseAb s =>
    simp only [schritt]
    split
    · next ausgefuehrt => exact gueltig.schliesseAb ausgefuehrt
    · exact gueltig
  | abbruch s => exact gueltig.rollback s
  | cleanup batch => exact gueltig.cleanup batch
  | anderes troopId wirkung => exact gueltig.anderes troopId wirkung

/-- No row has the key of the event, neither a committed one nor one in an open
transaction. -/
structure Frei (kollation : String → κ) (welt : Welt) (schluessel : Nat × κ) : Prop where
  rows : ∀ row ∈ welt.claims.rows, row.schluessel kollation ≠ schluessel
  held : ∀ entry ∈ welt.claims.held, entry.2.schluessel kollation ≠ schluessel

structure Spurlos (kollation : String → κ) (s : Nat) (ereignis : Ereignis) (welt welt' : Welt) : Prop where
  troops : welt'.troops = welt.troops
  buchungen : welt'.buchungen = welt.buchungen
  rows : welt'.claims.rows = welt.claims.rows
  frei : welt'.sitzungen s = .frei
  schluessel : ∀ clientEventId, ereignis.clientEventId = some clientEventId →
    Frei kollation welt' (ereignis.incidentId, kollation clientEventId)

/-- The request is one the endpoint passes on to its operation. -/
structure Zugelassen (fromisoformat : String → Option Zeit) (welt : Welt) (ereignis : Ereignis) (clientEventId : String)
    (troop : BreathingTroop) (ts : Zeit) (nachgetragen : Bool) : Prop where
  vorab : ereignis.eingabe.vorab = true
  found : welt.troops ereignis.troopId = some troop
  incident : troop.incidentId = ereignis.incidentId
  parsed : parseErfasstAt fromisoformat ereignis.erfasstAt welt.now = .ok (ts, nachgetragen)
  given : ereignis.clientEventId = some clientEventId
  valid : validClientEventId clientEventId = .ok clientEventId

theorem Gueltig.spurlos
    (gueltig : Gueltig fl kollation fromisoformat lockWait verschmelze start welt)
    (getragen : Getragen kollation fromisoformat lockWait welt s ereignis) (antworten : List (Ereignis × Nat)) :
    Spurlos kollation s ereignis welt ({ welt with antworten := antworten }.rollback s) := by
  refine ⟨rfl, rfl, rfl, Function.update_self .., fun clientEventId given => ?_⟩
  obtain ⟨row, inside⟩ := getragen.claimed (by simp [given])
  have zu := (getragen.held row inside).1
  have key : row.schluessel kollation = (ereignis.incidentId, kollation clientEventId) := by
    have same : row.clientEventId = clientEventId := Option.some.inj (zu.clientEventId.symm.trans given)
    rw [BreathingClientEvent.schluessel, zu.incidentId, same]
  rw [← key]
  refine ⟨fun other known same => ?_, fun entry held => ?_⟩
  · exact (List.nodup_append.mp gueltig.sound.keys).2.2 _ (List.mem_map_of_mem known) _ (List.mem_map_of_mem inside) same
  · obtain ⟨s', row'⟩ := entry
    have apart : s ≠ s' := by
      rintro rfl
      exact gueltig.sound.not_held row' held
    exact (gueltig.held_distinct inside (Table.held_rollback.subset held) apart).symm

variable (fl kollation fromisoformat lockWait verschmelze) in
theorem ausgefuehrt_of_frei [DecidableEq κ] {clientEventId : String}
    {troop neu : BreathingTroop} {ts : Zeit} {nachgetragen : Bool} {umgebung : Umgebung}
    (unheld : ∀ row, (s, row) ∉ welt.claims.held) (idle : welt.sitzungen s = .frei)
    (zugelassen : Zugelassen fromisoformat welt ereignis clientEventId troop ts nachgetragen)
    (frei : Frei kollation welt (ereignis.incidentId, kollation clientEventId)) (waits : 0 ≤ lockWait)
    (accepted : ereignis.eingabe.ausfuehren fl umgebung ereignis.userId ts nachgetragen troop = .ok neu) :
    (run (schritt fl kollation fromisoformat lockWait verschmelze) welt
      [.beginne s ereignis, .beanspruche s, .fuehreAus s umgebung, .schliesseAb s]).buchungen = welt.buchungen ++
        [⟨some ereignis, some (clientEvent welt.naechsteId welt.now ereignis clientEventId ts nachgetragen),
          ereignis.troopId, Option.map (verschmelze troop neu)⟩] := by
  let row := clientEvent welt.naechsteId welt.now ereignis clientEventId ts nachgetragen
  have begun : schritt fl kollation fromisoformat lockWait verschmelze welt (.beginne s ereignis) =
      { welt with naechsteId := welt.naechsteId + 1 }.setze s (.wartend ereignis row troop) := by
    simp only [schritt, idle, beginne, zugelassen.vorab, zugelassen.found, zugelassen.incident, zugelassen.parsed,
      zugelassen.given, zugelassen.valid, Bool.not_true, Bool.false_eq_true, if_false, ne_eq, not_true_eq_false]
    rfl
  have inserted : welt.claims.insert (·.schluessel kollation) s row =
      (.inserted, { welt.claims with held := welt.claims.held ++ [(s, row)] }) :=
    Table.insert_of_free frei.rows frei.held
  have written : Table.row? s { welt.claims with held := welt.claims.held ++ [(s, row)] } = some row := by
    have before : welt.claims.held.find? (fun entry => entry.1 == s) = none :=
      List.find?_eq_none.mpr fun entry known isMine => unheld entry.2 (by
        obtain ⟨s', other⟩ := entry
        obtain rfl : s' = s := by simpa using isMine
        exact known)
    simp [Table.row?, List.find?_append, before]
  have inTime : ¬ lockWait < welt.now - row.empfangenAt := by
    have same : row.empfangenAt = welt.now := rfl
    rw [same, sub_self]
    exact not_lt.mpr waits
  simp only [run_cons, run_nil, begun]
  simp only [schritt, Welt.setze, Function.update_self, beanspruche, inTime, if_false, inserted, fuehreAus,
    show row.erfasstAt = ts from rfl, show row.nachgetragen = nachgetragen from rfl, accepted, schliesseAb, written,
    Welt.antworte, Welt.buche]
  rfl

variable (fl kollation fromisoformat lockWait verschmelze) in
/-- A client event is applied once as long as its claim is kept; a rejected or
broken off request leaves neither effect nor claim, so that the next one with
the same id is executed. -/
structure Einmalig [DecidableEq κ] (start : Nat → Option BreathingTroop) (welt : Welt) : Prop where
  db : welt.troops = welt.ausBuchungen start
  angewandt : ∀ buchung ∈ welt.buchungen, Angewandt fl fromisoformat verschmelze buchung
  einzeln : welt.buchungen.Pairwise (Verspaetet kollation lockWait)
  erfasst : ∀ buchung ∈ welt.buchungen, ∀ ereignis row text captured, buchung.ereignis = some ereignis →
    buchung.row = some row → orNone ereignis.erfasstAt = some text → fromisoformat text = some captured →
    row.empfangenAt ≤ captured + stunden 12
  abgelehnt : ∀ s ereignis ts nachgetragen gelesen umgebung fehler,
    welt.sitzungen s = .beansprucht ereignis ts nachgetragen gelesen →
    ereignis.eingabe.ausfuehren fl umgebung ereignis.userId ts nachgetragen gelesen = .error fehler →
    Spurlos kollation s ereignis welt
      (schritt fl kollation fromisoformat lockWait verschmelze welt (.fuehreAus s umgebung))
  abgebrochen : ∀ s ereignis ts nachgetragen gelesen,
    welt.sitzungen s = .beansprucht ereignis ts nachgetragen gelesen ∨
      (∃ neu, welt.sitzungen s = .ausgefuehrt ereignis gelesen neu) →
    Spurlos kollation s ereignis welt (schritt fl kollation fromisoformat lockWait verschmelze welt (.abbruch s))
  wiederholt : ∀ s ereignis clientEventId troop neu ts nachgetragen umgebung, welt.sitzungen s = .frei →
    Zugelassen fromisoformat welt ereignis clientEventId troop ts nachgetragen →
    Frei kollation welt (ereignis.incidentId, kollation clientEventId) → 0 ≤ lockWait →
    ereignis.eingabe.ausfuehren fl umgebung ereignis.userId ts nachgetragen troop = .ok neu →
    (run (schritt fl kollation fromisoformat lockWait verschmelze) welt
      [.beginne s ereignis, .beanspruche s, .fuehreAus s umgebung, .schliesseAb s]).buchungen = welt.buchungen ++
        [⟨some ereignis, some (clientEvent welt.naechsteId welt.now ereignis clientEventId ts nachgetragen),
          ereignis.troopId, Option.map (verschmelze troop neu)⟩]

theorem parseErfasstAt_recent {value : Option String} {now ts : Zeit} {nachgetragen : Bool} {text : String}
    {captured : Zeit} (parsed : parseErfasstAt fromisoformat value now = .ok (ts, nachgetragen))
    (given : orNone value = some text) (read : fromisoformat text = some captured) : now ≤ captured + stunden 12 := by
  have positive : (0 : Zeit) ≤ stunden 12 := by decide
  by_cases future : captured - now > sekunden 120
  · have ahead : now ≤ captured := sub_nonneg.mp ((sekunden_nonneg 120).trans future.le)
    exact ahead.trans (le_add_of_nonneg_right positive)
  · simp only [parseErfasstAt, given, read, if_neg future] at parsed
    split at parsed
    · cases parsed
    · next recent => exact sub_le_iff_le_add'.mp (not_lt.mp recent)

theorem Gueltig.einmalig [DecidableEq κ]
    (gueltig : Gueltig fl kollation fromisoformat lockWait verschmelze start welt) :
    Einmalig fl kollation fromisoformat lockWait verschmelze start welt where
  db := gueltig.db
  angewandt := gueltig.angewandt
  einzeln := gueltig.einzeln
  erfasst := by
    intro buchung booked ereignis row text captured isEvent claimed given read
    obtain ⟨-, -, claims⟩ := gueltig.angewandt buchung booked ereignis isEvent
    exact parseErfasstAt_recent (claims row claimed).parsed given read
  abgelehnt := by
    intro s ereignis ts nachgetragen gelesen umgebung fehler beansprucht rejected
    have getragen := gueltig.sitzung s
    rw [beansprucht] at getragen
    simp only [schritt, beansprucht, Breathing.fuehreAus, rejected]
    exact gueltig.spurlos getragen _
  abgebrochen := by
    intro s ereignis ts nachgetragen gelesen open_
    have steht := gueltig.sitzung s
    rcases open_ with beansprucht | ⟨neu, ausgefuehrt⟩
    · rw [beansprucht] at steht
      exact gueltig.spurlos steht welt.antworten
    · rw [ausgefuehrt] at steht
      exact gueltig.spurlos steht.1 welt.antworten
  wiederholt := by
    intro s ereignis clientEventId troop neu ts nachgetragen umgebung idle zugelassen frei waits accepted
    have unheld := gueltig.sitzung s
    rw [idle] at unheld
    exact ausgefuehrt_of_frei fl kollation fromisoformat lockWait verschmelze unheld idle zugelassen frei waits accepted

/-- In every interleaving of requests, retries, broken off requests and
clean-ups a client event is applied once while its claim is kept, and a
rejected one leaves nothing. -/
theorem ereignis_einmalig [DecidableEq κ] (fl : Gleitkomma) (kollation : String → κ)
    (fromisoformat : String → Option Zeit) (lockWait : Zeit)
    (verschmelze : BreathingTroop → BreathingTroop → BreathingTroop → BreathingTroop)
    (start : Nat → Option BreathingTroop) (schritte : List Schritt) :
    Einmalig fl kollation fromisoformat lockWait verschmelze start
      (run (schritt fl kollation fromisoformat lockWait verschmelze) { troops := start } schritte) := by
  have initial : Gueltig fl kollation fromisoformat lockWait verschmelze start { troops := start } :=
    ⟨.empty, fun _ _ => List.not_mem_nil, fun _ booked => absurd booked List.not_mem_nil,
      fun _ booked => absurd booked List.not_mem_nil, .nil, rfl⟩
  exact (run_invariant (Gueltig fl kollation fromisoformat lockWait verschmelze start)
    (fun _ aktion held => schritt_gueltig fl kollation fromisoformat lockWait verschmelze held aktion)
    initial schritte).einmalig

/-- A report without `erfasst_at`, sent and executed by the first connection. -/
def sampleMeldung : List Schritt :=
  [.beginne 1 ⟨1, 1, 1, some "0123-abc", none, .meldung "Lage"⟩, .beanspruche 1,
    .fuehreAus 1 { uhr := fun _ => 0 }, .schliesseAb 1]

/-- A retry after the claim was cleaned up is applied a second time. -/
theorem ereignis_nach_aufbewahrung :
    (run (schritt exakt id (fun _ => none) 0 fun _ neu _ => neu) { troops := fun _ => some sampleTroop }
      (sampleMeldung ++ [.uhr (15 * 24 * 3600 * 1000000), .cleanup 200] ++ sampleMeldung)).buchungen.filterMap
        (fun buchung => buchung.row.map (·.clientEventId)) = ["0123-abc", "0123-abc"] := by
  decide +kernel

end Einsatzcockpit.Breathing
