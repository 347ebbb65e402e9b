import TokenBroker.Proofs.Interleaving.HandedOut

/-!
# What is seen of calls side by side

The outside sees the requests that calls send, the plug-ins that they ask, the readings of the clock
that they take, and the log. `Interleaving.observed` collects these over the first `n` events, each
in the order in which it happens.
-/

namespace TokenBroker

namespace Engine

/-- The request that a call has just sent in order to come to a phase. -/
def Phase.posts : Phase → List HttpRequest
  | .receiving _ _ _ (.post http _) _ => [http]
  | _ => []

/-- The plug-in that a call has just asked in order to come to a phase. -/
def Phase.asks : Phase → List Nat
  | .receiving _ _ _ (.ask number) _ => [number]
  | _ => []

/-- What the outside has seen of calls. -/
structure Observed where
  sent : List HttpRequest := []
  asked : List Nat := []
  readings : List DateTime := []
  log : List LogEntry := []

/-- What has been seen after a step that a call takes from a phase at a time. -/
def Observed.after (o : Observed) (now : DateTime) (p : Phase) (next : Step) : Observed where
  sent := o.sent ++ next.phase.posts
  asked := o.asked ++ next.phase.asks
  readings := o.readings ++ if p.readsClock then [now] else []
  log := o.log ++ next.log

/-- The phase from which a call takes a step with an event, and that step. -/
def Scene.taken (e : Engine) (s : Scene) : Event → Option (Phase × Step)
  | .step i env =>
    s.calls[i]?.bind fun c =>
      (e.step c.key { env with now := s.clock } s.shared c.phase).map (c.phase, ·)
  | _ => none

/-- What has been seen after the first `n` events. -/
def Interleaving.observed (r : Interleaving) : Nat → Observed
  | 0 => {}
  | n + 1 =>
    match (r.scene n).taken r.engine (r.event n) with
    | none => r.observed n
    | some (p, next) => (r.observed n).after (r.scene n).clock p next

end Engine

end TokenBroker
