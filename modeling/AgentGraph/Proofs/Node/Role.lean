import AgentGraph.Rule

/-!
The roles that nodes play for edges. The kind of an edge asks for the roles of its ends,
and for nothing else about them.
-/

namespace AgentGraph

inductive Role where
  | agent
  | behaviour
  | template
  | message
  | note
deriving DecidableEq

namespace Payload

def role : Payload → Role
  | .agent _ | .reasoning _ | .prompted _ => .agent
  | .behaviour _ => .behaviour
  | .template _ => .template
  | .message _ => .message
  | .note _ => .note

theorem isAgent_eq (payload : Payload) : payload.isAgent = (payload.role == .agent) := by
  cases payload <;> rfl

theorem isBehaviour_eq (payload : Payload) :
    payload.isBehaviour = (payload.role == .behaviour) := by
  cases payload <;> rfl

theorem isTemplate_eq (payload : Payload) :
    payload.isTemplate = (payload.role == .template) := by
  cases payload <;> rfl

theorem isMessage_eq (payload : Payload) : payload.isMessage = (payload.role == .message) := by
  cases payload <;> rfl

theorem role_eq_of_typeName {first second : Payload} (same : first.typeName = second.typeName) :
    first.role = second.role := by
  cases first <;> cases second <;> first | rfl | simp [typeName] at same

end Payload

namespace EdgeKind

def sourceRole : EdgeKind → Role
  | .friendship | .agentBehaviour | .inheritance => .agent
  | .template | .message => .behaviour

def targetRole : EdgeKind → Role
  | .friendship | .inheritance => .agent
  | .agentBehaviour => .behaviour
  | .template => .template
  | .message => .message

theorem fits_iff {kind : EdgeKind} {source target : Payload} :
    kind.fits source target = true ↔
      source.role = kind.sourceRole ∧ target.role = kind.targetRole := by
  cases kind with
  | friendship | inheritance => simp [fits, Payload.isAgent_eq, sourceRole, targetRole]
  | agentBehaviour =>
      simp [fits, Payload.isAgent_eq, Payload.isBehaviour_eq, sourceRole, targetRole]
  | template =>
      simp [fits, Payload.isBehaviour_eq, Payload.isTemplate_eq, sourceRole, targetRole]
  | message =>
      simp [fits, Payload.isBehaviour_eq, Payload.isMessage_eq, sourceRole, targetRole]

end EdgeKind

end AgentGraph
