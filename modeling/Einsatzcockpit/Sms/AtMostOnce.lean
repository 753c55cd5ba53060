import Einsatzcockpit.Sms.Reachable

namespace Einsatzcockpit.Sms

/-- Between two effects of different generations of one job lies, before the
later one, a report that the earlier generation was not sent. -/
def AtMostOnce (log : List Entry) : Prop :=
  EventLog.Pairs (fun earlier later before => ∀ jobId generation generation',
    earlier = .effect jobId generation → later = .effect jobId generation' → generation ≠ generation' →
      .notSent jobId generation ∈ before) log

/-- Acknowledgements name their job canonically, and no fallback leaves a
queued release behind. -/
def Fences (w : World) (action : Action) : Prop :=
  AcksCanonically w action ∧ FallsBackSettled w action

variable {sha256 : String → String} {w : World}

variable (sha256 w) in
theorem step_log (action : Action) :
    (step sha256 w action).log = w.log ∨ ∃ entry, (step sha256 w action).log = w.log ++ [entry] := by
  have at_most_one (found : Option Entry) :
      w.log ++ found.toList = w.log ∨ ∃ entry, w.log ++ found.toList = w.log ++ [entry] := by
    cases found with
    | none => exact Or.inl (List.append_nil _)
    | some entry => exact Or.inr ⟨entry, rfl⟩
  cases action with
  | enqueue | claim =>
    simp only [step]
    split <;> exact Or.inl rfl
  | sweep | finish | presence => exact Or.inl rfl
  | event => exact at_most_one _
  | prepare =>
    simp only [step]
    split
    · exact Or.inl rfl
    · split
      · exact at_most_one _
      · exact Or.inl rfl
  | eusResult =>
    simp only [step]
    split
    · exact Or.inl rfl
    · split
      · exact at_most_one _
      · exact Or.inl (List.append_nil _)
  | deliver =>
    simp only [step]
    split
    · exact Or.inl rfl
    · split
      · exact Or.inr ⟨_, rfl⟩
      · exact Or.inl (List.append_nil _)

theorem step_atMostOnce (coherent : w.Coherent) (traced : w.Traced) (fenced : w.Fenced) (action : Action)
    (held : AtMostOnce w.log) : AtMostOnce (step sha256 w action).log := by
  rcases step_log sha256 w action with same | ⟨entry, extended⟩
  · rw [same]
    exact held
  rw [extended]
  refine EventLog.Pairs.append_one held fun earlier member jobId generation generation' isEarlier isLater other => ?_
  subst isEarlier isLater
  have life := step_refines sha256 jobId coherent.sound action
  have before := effects_of_log.mpr member
  rcases life.exclusive (coherent.views jobId) (traced jobId) (fenced jobId) with
    unchanged | ⟨newest, added, alone⟩
  · have grown : ((step sha256 w action).view jobId).effects = (w.view jobId).effects ++ [generation'] := by
      simp [World.view, extended, Entry.effectOf]
    rw [grown] at unchanged
    simp at unchanged
  · have grown : ((step sha256 w action).view jobId).effects = (w.view jobId).effects ++ [generation'] := by
      simp [World.view, extended, Entry.effectOf]
    obtain rfl : generation' = newest := by simpa [grown] using added
    by_contra unreported
    exact other (alone generation ⟨before, fun reported => unreported (unsent_of_log.mp reported)⟩)

/-- In every run behind the fences, an effect of one generation is never
followed by an effect of another one unless it was reported as not sent. -/
theorem sms_atMostOnce (sha256 : String → String) (gateways : List SmsGatewayToken)
    (recipients : List SmsLogRecipient) (actions : List Action)
    (fences : Transition.Meets (step sha256) Fences (initial gateways recipients) actions) :
    AtMostOnce (Transition.run (step sha256) (initial gateways recipients) actions).log := by
  have all := Transition.run_induction
    (fun w : World => w.Coherent ∧ w.Traced ∧ w.Fenced ∧ AtMostOnce w.log)
    (fun w action ⟨coherent, traced, fenced, once⟩ ok =>
      ⟨step_coherent sha256 coherent action, step_traced coherent traced ok.1, step_fenced coherent traced fenced ok.2,
        step_atMostOnce coherent traced fenced action once⟩)
    ⟨initial_coherent, initial_traced, initial_fenced, EventLog.pairs_nil _⟩ fences
  exact all.2.2.2

/-- EUS cannot be reached, the next provider takes the job: two effects of two
generations, the first one closed in between. -/
theorem sms_atMostOnce_fallback :
    AtMostOnce (Transition.run (step id) (initial [phone "c1"] []) [
      .enqueue 0 0 sampleId 1 "key" "+43" "text" [.eus, .eus] none none false,
      .claim 0 "t1" "w" 1 sampleId,
      .prepare (second 0) "m1" 1 sampleId "t1" true 15,
      .eusResult (sekunden 1) 1 sampleId "t1" .notConnected,
      .claim (sekunden 2) "t2" "w" 1 sampleId,
      .prepare (second 2) "m2" 1 sampleId "t2" true 15]).log :=
  sms_atMostOnce id [phone "c1"] [] _ (by simp [Transition.Meets, Fences, AcksCanonically, FallsBackSettled])

/-- The release of generation 1 is still queued when a report of 'not sent'
sends the job on to EUS, and is delivered after that. -/
def leftoverRun : List Action :=
  acknowledgedRun [.gateway, .eus] ++ [
    .event (second 3) "m3" (socket "c1").connection "h" [("type", .text "sms.result"),
      ("id", .text (sampleId ++ ":1")), ("outcome", .text "failed"), ("not_sent", .bool true),
      ("attempted", .bool false)] false,
    .claim (sekunden 4) "t2" "w" 1 sampleId,
    .prepare (second 4) "m4" 1 sampleId "t2" true 15,
    .deliver (second 5) "w" [socket "c1"] "m2" none]

theorem sms_sent_twice :
    ¬ AtMostOnce (Transition.run (step id) (initial [phone "c1"] []) leftoverRun).log ∧
      ¬ AtMostOnce (Transition.run (step id) (initial [phone "c1"] []) (leadingZeroRun [.gateway, .eus] ++
        [.claim (sekunden 101) "t2" "w" 1 sampleId, .prepare (second 101) "m4" 1 sampleId "t2" true 15])).log := by
  constructor
  · have log : (Transition.run (step id) (initial [phone "c1"] []) leftoverRun).log =
        [.notSent sampleId 1, .effect sampleId 2, .effect sampleId 1] := by decide
    rw [log]
    intro once
    have reported := once [.notSent sampleId 1] (.effect sampleId 2) [] (.effect sampleId 1) [] rfl sampleId 2 1
      rfl rfl (by decide)
    simp at reported
  · have log : (Transition.run (step id) (initial [phone "c1"] []) (leadingZeroRun [.gateway, .eus] ++
        [.claim (sekunden 101) "t2" "w" 1 sampleId, .prepare (second 101) "m4" 1 sampleId "t2" true 15])).log =
        [.effect sampleId 1, .effect sampleId 2] := by decide
    rw [log]
    intro once
    have reported := once [] (.effect sampleId 1) [] (.effect sampleId 2) [] rfl sampleId 1 2 rfl rfl (by decide)
    simp at reported

end Einsatzcockpit.Sms
