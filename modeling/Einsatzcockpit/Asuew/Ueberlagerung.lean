import Einsatzcockpit.Asuew.Logik
import Einsatzcockpit.Lib.Reorder

namespace Einsatzcockpit.Asuew

inductive Wirkung : (Trupp → Trupp) → Prop
  | nichts : Wirkung id
  | kontrolle (stufe : String) (atServerMs : Int) : Wirkung (kontrolliere · stufe atServerMs)
  | druck (atServerMs : Int) : Wirkung (meldeDruck · atServerMs)
  | maxTime : Wirkung fun t =>
      { t with maxTimeAcked := true, serverWarnings := t.serverWarnings.filter (· != "max_exceeded") }
  | withdraw : Wirkung fun t => { t with serverWarnings := t.serverWarnings.filter (· != "withdraw") }

theorem wendeAn_wirkung (e : Ereignis) :
    ∃ f, Wirkung f ∧ ∀ t, wendeAn t e = if e.eigen t then f t else t := by
  have found : ∃ f, Wirkung f ∧ ∀ t, e.eigen t = true → wendeAn t e = f t := by
    simp only [wendeAn]
    split
    · cases e.stufe with
      | none => exact ⟨id, .nichts, fun t own => by simp [own]⟩
      | some stufe =>
        by_cases known : stufe ∈ stages
        · exact ⟨_, .kontrolle stufe e.atServerMs, fun t own => by simp [own, known]⟩
        · exact ⟨id, .nichts, fun t own => by simp [own, known]⟩
    · exact ⟨_, .druck e.atServerMs, fun t own => by simp [own]⟩
    · cases e.ackKind with
      | none => exact ⟨id, .nichts, fun t own => by simp [own]⟩
      | some ackKind =>
        by_cases maxTime : ackKind = "max_time"
        · exact ⟨_, .maxTime, fun t own => by simp [own, maxTime, quittiere]⟩
        · by_cases withdraw : ackKind = "withdraw"
          · exact ⟨_, .withdraw, fun t own => by simp [own, withdraw, quittiere]⟩
          · exact ⟨id, .nichts, fun t own => by simp [own, maxTime, withdraw, quittiere]⟩
    · exact ⟨id, .nichts, fun t own => by simp [own]⟩
  obtain ⟨f, wirkung, spec⟩ := found
  refine ⟨f, wirkung, fun t => ?_⟩
  by_cases own : e.eigen t = true
  · rw [if_pos own, spec t own]
  · rw [if_neg own, wendeAn, if_pos (by simpa using own)]

def Trupp.fest (t : Trupp) : Trupp :=
  { t with lastPressureAtMs := none, maxTimeAcked := false, serverWarnings := [], kontrollen := [] }

variable {f : Trupp → Trupp} {t t' : Trupp}

theorem Wirkung.fest (wirkung : Wirkung f) (t : Trupp) : (f t).fest = t.fest := by
  cases wirkung <;> rfl

theorem eigen_of_fest (fest : t'.fest = t.fest) (e : Ereignis) : e.eigen t' = e.eigen t := by
  calc
    e.eigen t' = e.eigen t'.fest := rfl
    _ = e.eigen t.fest := by rw [fest]
    _ = e.eigen t := rfl

theorem kontrolliere_kontrolliert (t : Trupp) (stufe : String) (atServerMs : Int) (stufe' : String) :
    (kontrolliere t stufe atServerMs).kontrolliert stufe' = (t.kontrolliert stufe' || stufe == stufe') := by
  unfold kontrolliere
  by_cases known : t.kontrolliert stufe = true
  · have same : ({ t with
        kontrollen := t.kontrollen
        serverWarnings := t.serverWarnings.filter fun w => warnungZu stufe != some w } : Trupp).kontrolliert stufe' =
          t.kontrolliert stufe' := rfl
    rw [if_pos known, same]
    by_cases equal : stufe = stufe'
    · rw [← equal, known, Bool.true_or]
    · rw [beq_eq_false_iff_ne.mpr equal, Bool.or_false]
  · rw [if_neg known]
    simp [Trupp.kontrolliert, List.any_append]

theorem bleibt_mono {last last' : Int} (le : last ≤ last') {w : String} (stays : bleibt t last' w = true) :
    bleibt t last w = true := by
  unfold bleibt at stays ⊢
  split
  · rfl
  · rfl
  · next entry unknown =>
    rw [entry, unknown] at stays
    exact stays
  · next entryAtMs seconds entry known =>
    rw [entry, known] at stays
    simp only [decide_eq_true_eq] at stays ⊢
    omega

/-- Two troops that differ in their radio checks only, and not in the stages that
were made. -/
def Gleich (t t' : Trupp) : Prop :=
  ∃ kontrollen, t' = { t with kontrollen } ∧
    ∀ stufe, ({ t with kontrollen } : Trupp).kontrolliert stufe = t.kontrolliert stufe

theorem Gleich.of_eq (equal : t' = t) : Gleich t t' := by
  subst equal
  exact ⟨t'.kontrollen, rfl, fun _ => rfl⟩

theorem gleich_equivalence : Equivalence Gleich where
  refl t := .of_eq rfl
  symm := by
    rintro t t' ⟨kontrollen, rfl, same⟩
    exact ⟨t.kontrollen, rfl, fun stufe => (same stufe).symm⟩
  trans := by
    rintro t t' t'' ⟨kontrollen, rfl, same⟩ ⟨kontrollen', rfl, same'⟩
    exact ⟨kontrollen', rfl, fun stufe => (same' stufe).trans (same stufe)⟩

theorem Gleich.wirkung (gleich : Gleich t t') (wirkung : Wirkung f) :
    Gleich (f t) (f t') := by
  obtain ⟨kontrollen, rfl, same⟩ := gleich
  cases wirkung with
  | kontrolle stufe atServerMs =>
    refine ⟨(kontrolliere { t with kontrollen } stufe atServerMs).kontrollen, rfl, fun stufe' => ?_⟩
    have left := kontrolliere_kontrolliert { t with kontrollen } stufe atServerMs stufe'
    rw [same stufe', ← kontrolliere_kontrolliert] at left
    exact left
  | _ => exact ⟨kontrollen, rfl, same⟩

theorem whole_of_fest (fest : t'.fest = t.fest) :
    t' = { t with
      lastPressureAtMs := t'.lastPressureAtMs
      maxTimeAcked := t'.maxTimeAcked
      serverWarnings := t'.serverWarnings
      kontrollen := t'.kontrollen } := by
  calc
    t' = { t'.fest with
        lastPressureAtMs := t'.lastPressureAtMs
        maxTimeAcked := t'.maxTimeAcked
        serverWarnings := t'.serverWarnings
        kontrollen := t'.kontrollen } := rfl
    _ = { t.fest with
        lastPressureAtMs := t'.lastPressureAtMs
        maxTimeAcked := t'.maxTimeAcked
        serverWarnings := t'.serverWarnings
        kontrollen := t'.kontrollen } := by rw [fest]

theorem Gleich.of (fest : t'.fest = t.fest) (druck : t'.lastPressureAtMs = t.lastPressureAtMs)
    (acked : t'.maxTimeAcked = t.maxTimeAcked) (warnings : t'.serverWarnings = t.serverWarnings)
    (kontrolliert : ∀ stufe, t'.kontrolliert stufe = t.kontrolliert stufe) : Gleich t t' := by
  have whole := whole_of_fest fest
  rw [druck, acked, warnings] at whole
  refine ⟨t'.kontrollen, whole, fun stufe => ?_⟩
  rw [← kontrolliert stufe]
  exact congrArg (Trupp.kontrolliert · stufe) whole.symm

theorem meldeDruck_warnings (t : Trupp) (first second : Int) :
    (meldeDruck (meldeDruck t first) second).serverWarnings =
      t.serverWarnings.filter (bleibt t (max (max (t.lastPressureAtMs.getD first) first) second)) := by
  have later : (meldeDruck (meldeDruck t first) second).serverWarnings =
      (t.serverWarnings.filter (bleibt t (max (t.lastPressureAtMs.getD first) first))).filter
        (bleibt t (max (max (t.lastPressureAtMs.getD first) first) second)) := rfl
  rw [later, List.filter_filter]
  refine List.filter_congr fun w _ => ?_
  cases stays : bleibt t (max (max (t.lastPressureAtMs.getD first) first) second) w with
  | false => rw [Bool.false_and]
  | true => rw [Bool.true_and, bleibt_mono (le_max_left ..) stays]

theorem spaeteste_comm (last : Option Int) (first second : Int) :
    max (max (last.getD first) first) second = max (max (last.getD second) second) first := by
  cases last with
  | none => rw [Option.getD_none, Option.getD_none, max_self, max_self, max_comm]
  | some last => rw [Option.getD_some, Option.getD_some, max_right_comm]

theorem Wirkung.comm {g : Trupp → Trupp} (first : Wirkung f) (second : Wirkung g) (t : Trupp) :
    Gleich (g (f t)) (f (g t)) := by
  refine .of ?_ ?_ ?_ ?_ fun stufe => ?_
  · rw [first.fest, second.fest, second.fest, first.fest]
  · cases first <;> cases second <;> try rfl
    next a b => exact congrArg some (spaeteste_comm t.lastPressureAtMs b a)
  · cases first <;> cases second <;> rfl
  · cases first with
    | nichts => rfl
    | druck a =>
      cases second with
      | nichts => rfl
      | druck b =>
        rw [meldeDruck_warnings, meldeDruck_warnings, spaeteste_comm]
      | _ => exact List.filter_comm ..
    | _ =>
      cases second with
      | nichts => rfl
      | _ => exact List.filter_comm ..
  · cases first <;> cases second <;> try rfl
    next s a s' b =>
      simp only [kontrolliere_kontrolliert]
      exact Bool.or_right_comm ..

theorem Wirkung.idem (wirkung : Wirkung f) (t : Trupp) : Gleich (f t) (f (f t)) := by
  refine .of (wirkung.fest _) ?_ ?_ ?_ fun stufe => ?_
  · cases wirkung <;> try rfl
    next a => exact congrArg some (max_eq_left (le_max_right ..))
  · cases wirkung <;> rfl
  · cases wirkung with
    | nichts => rfl
    | druck a =>
      rw [meldeDruck_warnings, max_eq_left (le_max_right ..)]
      rfl
    | _ => exact List.filter_filter .. |>.trans (List.filter_congr fun _ _ => Bool.and_self _)
  · cases wirkung <;> try rfl
    next s a =>
      simp only [kontrolliere_kontrolliert]
      rw [Bool.or_assoc, Bool.or_self]

theorem wendeAn_fest (t : Trupp) (e : Ereignis) : (wendeAn t e).fest = t.fest := by
  obtain ⟨f, wirkung, spec⟩ := wendeAn_wirkung e
  rw [spec]
  split
  · exact wirkung.fest t
  · rfl

theorem orderFree : Overlay.OrderFree Gleich wendeAn where
  equivalence := gleich_equivalence
  congr := by
    intro s t e gleich
    obtain ⟨f, wirkung, spec⟩ := wendeAn_wirkung e
    have own : e.eigen t = e.eigen s := by
      obtain ⟨kontrollen, rfl, -⟩ := gleich
      rfl
    rw [spec, spec, own]
    split
    · exact gleich.wirkung wirkung
    · exact gleich
  comm := by
    intro t e e'
    obtain ⟨f, wirkung, spec⟩ := wendeAn_wirkung e
    obtain ⟨g, wirkung', spec'⟩ := wendeAn_wirkung e'
    rw [spec' (wendeAn t e), spec (wendeAn t e'), eigen_of_fest (wendeAn_fest t e), eigen_of_fest (wendeAn_fest t e'),
      spec t, spec' t]
    by_cases own : e.eigen t = true
    · by_cases own' : e'.eigen t = true
      · rw [if_pos own, if_pos own', if_pos own', if_pos own]
        exact wirkung.comm wirkung' t
      · rw [if_neg own', if_neg own', if_pos own]
        exact gleich_equivalence.refl _
    · rw [if_neg own, if_neg own]
      exact gleich_equivalence.refl _
  idem := by
    intro t e
    obtain ⟨f, wirkung, spec⟩ := wendeAn_wirkung e
    rw [spec (wendeAn t e), eigen_of_fest (wendeAn_fest t e), spec t]
    by_cases own : e.eigen t = true
    · rw [if_pos own, if_pos own]
      exact gleich_equivalence.symm (wirkung.idem t)
    · rw [if_neg own]
      exact gleich_equivalence.refl _

end Einsatzcockpit.Asuew
