import Positioning.Bus.Basic

/-!
# Subscriptions

A match rule selects the signals of one kind, from one object or from all of them. A subscription
is a rule with a handler, and it remembers what its handler was given.

## Main definitions

- `MatchRule.selects` says which messages a rule is about, whatever their arguments are.
- `Subscription.deliver` hands a message to a subscription: the handler sees the payload of a
  selected message that decodes, and the subscription stays unless the handler says otherwise.
-/

namespace Positioning

/-- Selects the signals of a kind, from one object or from all of them. -/
structure MatchRule where
  path? : Option ObjectPath
  kind : SignalKind
deriving DecidableEq

namespace MatchRule

/-- A rule selects by path, interface and member. -/
def selects (r : MatchRule) (m : Message) : Bool :=
  r.path?.all (· = m.path) && r.kind.isNamedBy m

/-- A field of the text of a rule. -/
def fieldText (key value : String) : String :=
  key ++ "='" ++ value ++ "'"

/-- The text of a rule, as a message bus takes it. -/
def text (r : MatchRule) : String :=
  ",".intercalate
    ([fieldText "type" "signal"] ++ (r.path?.map fun p => fieldText "path" p.text).toList ++
      [fieldText "interface" r.kind.interface.name, fieldText "member" r.kind.member])

end MatchRule

/-- A rule with its handler, and the payloads that the handler was given so far. -/
structure Subscription (ω : Type) where
  token : Token
  rule : MatchRule
  received : List rule.kind.Payload
  handler : Handler rule.kind.Payload ω

/-- What comes of delivering a message: the effects, and the subscriptions that remain. -/
structure Delivery (ω : Type) where
  effects : List (Effect ω)
  remaining : List (Subscription ω)

namespace Subscription

variable {ω : Type}

/-- A subscription whose handler was given nothing yet. -/
def fresh (token : Token) (rule : MatchRule) (handler : Handler rule.kind.Payload ω) :
    Subscription ω :=
  ⟨token, rule, [], handler⟩

/-- Gives the handler a payload. -/
def give (s : Subscription ω) (payload : s.rule.kind.Payload) : Delivery ω :=
  let reaction := s.handler s.received payload
  ⟨reaction.effects,
    if reaction.keep then [{ s with received := s.received ++ [payload] }] else []⟩

/-- Delivers a message. A message that the rule does not select, or whose arguments do not decode,
leaves the subscription as it is. -/
def deliver (m : Message) (s : Subscription ω) : Delivery ω :=
  if s.rule.selects m then
    match s.rule.kind.decode m.arguments with
    | .ok payload => s.give payload
    | .error _ => ⟨[], [s]⟩
  else ⟨[], [s]⟩

/-- Delivers a message to every subscription, in order. -/
def deliverAll (m : Message) (subscriptions : List (Subscription ω)) : Delivery ω where
  effects := subscriptions.flatMap fun s => (s.deliver m).effects
  remaining := subscriptions.flatMap fun s => (s.deliver m).remaining

end Subscription

end Positioning
