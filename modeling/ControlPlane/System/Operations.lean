import ControlPlane.Evidence.PacketLifecycle
import ControlPlane.Policies.Registry
import ControlPlane.Reviews.LatestScore
import ControlPlane.Reviews.VerificationLifecycle
import ControlPlane.Services.OverrideService
import ControlPlane.Services.PacketDict

/-!
Everything that writes, as one type: the requests of the pipeline and its worker, the policy
registry with the start of the application, submissions and overrides, packets, scores and
verifications. A request carries the tenant of its caller, which is `none` for the operator.
-/

namespace ControlPlane

open Lib EvidenceGraph EvidenceStore EvidenceSignature

section

variable [Deployment]

namespace EvidenceStore

def recordDownload (packet : EvidencePacket) (fmt : String)
    (tenantId downloadedBy : Option String) : StoreSession AuditEvent :=
  recordEvent {
    action := "evidence.packet.downloaded"
    resourceType := "evidence_packet"
    resourceId := packet.id
    tenantId := tenantId
    actor := downloadedBy
    metadata := some [("format", .str fmt), ("version", numOrNull packet.version),
      ("packet_hash", .ofOption packet.packetHash)] }

end EvidenceStore

variable [Python] [Ed25519]

/-- `POST /evidence/packets/action/{id}/persist`. -/
def persistActionPacket (settings : Settings) (governedActionId : String)
    (tenantId userId : Option String) : StoreSession EvidencePacket := do
  let now ← readClock
  let built ← peek fun S => EvidencePackets.buildActionPacket S (Datetime.utc now).isoformat
    governedActionId tenantId
  match ← outcome built with
  | none => throw (.http 404 "governed_action_not_found")
  | some packet => persistPacket settings tenantId packet.document userId

inductive Operation where
  | pipeline (request : Option Request)
  | registry (call : PolicyVersionService.RegistryCall)
  | override (tenantId : Option String) (governedActionId : String)
      (a : OverrideService.Authorization)
  | persistPacket (governedActionId : String) (tenantId userId : Option String)
  | revokePacket (packetId reason : String) (tenantId userId : Option String)
  | downloadPacket (packetId fmt : String) (tenantId userId : Option String)
  | score (call : TrustScoreService.ScoreCall)
  | verification (call : VerificationService.VerificationCall)

def Operation.run (settings : Settings) : Operation → StoreSession Unit
  | .pipeline request => do
      let _ ← inPipeline (program request)
      return ()
  | .registry call => call.run
  | .override tenantId governedActionId a => do
      let _ ← OverrideService.createOverride tenantId governedActionId a
      return ()
  | .persistPacket governedActionId tenantId userId => do
      let _ ← persistActionPacket settings governedActionId tenantId userId
      return ()
  | .revokePacket packetId reason tenantId userId => do
      let packet ← loadPacket tenantId packetId
      let _ ← EvidenceSignature.revokePacket packet reason userId
      return ()
  | .downloadPacket packetId fmt tenantId userId => do
      let packet ← loadPacket tenantId packetId
      let _ ← recordDownload packet fmt tenantId userId
      return ()
  | .score call => do
      let _ ← call.run settings
      return ()
  | .verification call => call.run settings

/-- Operations one after the other, whether they return or raise. The log has the store that
each of them found. -/
inductive OperationRun (settings : Settings) (start : Store) :
    List (Store × Operation) → Store → Prop where
  | nil : OperationRun settings start [] start
  | next {log : List (Store × Operation)} {S S' : Store} (h : OperationRun settings start log S)
      (op : Operation) {trace : List StoreEvent} {result : Except PyErr Unit}
      (hrun : Prog.Runs anyAnswer (op.run settings) S trace result S') :
      OperationRun settings start (log ++ [(S, op)]) S'

/-- An operation with the answers of an oracle continues a run. -/
theorem OperationRun.exec {settings : Settings} {start S : Store} {log : List (Store × Operation)}
    (h : OperationRun settings start log S) (op : Operation)
    (oracle : Nat → (q : StoreCall) → StoreReply q) (n : Nat) :
    OperationRun settings start (log ++ [(S, op)]) ((op.run settings).exec oracle n S).2.2 :=
  h.next op (Prog.runs_exec (fun _ _ _ => trivial) (op.run settings) n S)

end

end ControlPlane
