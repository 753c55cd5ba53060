import Einsatzcockpit.Breathing.Replay

namespace Einsatzcockpit.Breathing

variable {fl : Gleitkomma} {keys : Schluessel} {umgebung : Umgebung} {operation : Operation} {limit : ℚ}
  {begun troop troop' : BreathingTroop} {done : List Operation}

def Accepted (fl : Gleitkomma) (stand : Stand) (request : Request) : Prop :=
  ∃ troop, apply fl (stand.next.skip request.operation.skipped) request stand.troop = .ok troop

theorem Accepted.effect {stand : Stand} {request : Request} (accepted : Accepted fl stand request) :
    Effect fl (stand.next.skip request.operation.skipped) request.umgebung request.operation stand.troop
      (step fl stand request).troop := by
  obtain ⟨troop, ok⟩ := accepted
  rw [step_accepted stand request ok]
  exact apply_effect ok

theorem Replayed.begin (distinct : (memberIds troop).Nodup) (unused : Unused troop) :
    Replayed fl limit troop troop [] := by
  refine ⟨⟨rfl, rfl, rfl, rfl, rfl, rfl, rfl⟩, rfl, by rw [unused.logs]; rfl, fun _ => by simp, by simp, ?_⟩
  intro member active before was same
  obtain rfl : before = member :=
    List.inj_on_of_nodup_map distinct (mem_activeMembers.mp was).1 (mem_activeMembers.mp active).1 same
  exact Register.Holds.empty ..

end Einsatzcockpit.Breathing
