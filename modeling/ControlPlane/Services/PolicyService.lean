import ControlPlane.Services.Text

/-!
`services/policy_service.py`: from the text of a message to a policy category,
and from the category to what may happen.
-/

namespace ControlPlane.PolicyService

inductive PolicyCategory where
  | readOnly
  | draftOnly
  | outboundSend
  | publish
  | destructive
  deriving DecidableEq, Repr

def PolicyCategory.value : PolicyCategory → String
  | .readOnly => "read_only"
  | .draftOnly => "draft_only"
  | .outboundSend => "outbound_send"
  | .publish => "publish"
  | .destructive => "destructive"

structure PolicyEvaluation where
  category : PolicyCategory
  allowed : Bool
  blocked : Bool
  requiresApproval : Bool
  reason : Option String := none
  deriving DecidableEq, Repr

def outboundPhraseMarkers : List String :=
  ["send email", "send an email", "send this email", "send the email",
    "send that email", "reply to all", "mail this"]

def evaluateAction : PolicyCategory → PolicyEvaluation
  | .readOnly => ⟨.readOnly, true, false, false, none⟩
  | .draftOnly => ⟨.draftOnly, true, false, false, none⟩
  | .outboundSend => ⟨.outboundSend, true, false, true,
      some "Outbound send requires explicit approval."⟩
  | .publish => ⟨.publish, true, false, true,
      some "Publishing requires explicit approval."⟩
  | .destructive => ⟨.destructive, false, true, false,
      some "Destructive actions are blocked by default."⟩

def destructiveMarkers : List String :=
  ["delete ", "remove ", " wipe", "destroy ", "drop "]

def publishMarkers : List String :=
  ["publish", "post to youtube", "go live", "upload video", "push to channel"]

def readMarkers : List String :=
  ["list my emails", "fetch inbox", "read messages", "show thread"]

def classifyMessagePolicyCategory (message : String) : PolicyCategory :=
  let text := Text.lower message
  if Text.anyOccurs destructiveMarkers text then .destructive
  else if Text.anyOccurs publishMarkers text then .publish
  else if Text.anyOccurs outboundPhraseMarkers text then .outboundSend
  else if Text.anyOccurs readMarkers text then .readOnly
  else .draftOnly

end ControlPlane.PolicyService
