import Aranya.Controller.Node
import Aranya.Lib.Execution

namespace Aranya.EdgeDevice

structure NodeCertSpec where
  country : Bytes
  state : Bytes
  locality : Bytes
  orgUnit : Bytes
  deriving DecidableEq, Repr

-- The addresses are byte slices. The one of a text that is not an address is empty.
structure CertificateRequest where
  commonName : Bytes
  country : List Bytes
  province : List Bytes
  locality : List Bytes
  organization : List Bytes
  organizationalUnit : List Bytes
  dnsNames : List Bytes
  ipAddresses : List Bytes
  deriving DecidableEq, Repr

structure X509 (κ : Type) where
  parseIP : Bytes → Option Bytes
  ipString : Bytes → Bytes
  generateCSR : CertificateRequest → κ → Except Bytes Bytes
  parseCSR : Bytes → Except Bytes CertificateRequest
  marshalKey : κ → Except Bytes Bytes
  parseKey : Bytes → Except Bytes κ
  x509KeyPair : Bytes → Bytes → Option Bytes
  parse_generate : ∀ {req key csr}, generateCSR req key = .ok csr →
    (∀ ip ∈ req.ipAddresses, ∃ text, parseIP text = some ip) →
    ∃ req', parseCSR csr = .ok req' ∧ req'.dnsNames = req.dnsNames ∧
      req'.ipAddresses.map ipString = req.ipAddresses.map ipString

structure CertSecret where
  csr : Option Bytes
  privateKey : Option Bytes
  cert : Option Bytes
  deriving DecidableEq, Repr

inductive CSRConditionType
  | approved
  | denied
  | failed
  deriving DecidableEq, Repr

structure CSRCondition where
  type : CSRConditionType
  reason : Bytes
  message : Bytes
  deriving DecidableEq, Repr

structure KubeCSR where
  request : Bytes
  signerName : Bytes
  groups : List Bytes
  usages : List Bytes
  conditions : List CSRCondition
  certificate : Bytes
  deriving DecidableEq, Repr

def KubeCSR.decided (csr : KubeCSR) : Bool :=
  csr.conditions.any fun condition => condition.type = .approved || condition.type = .denied

-- A deleted CSR is given as it was, unless there was none.
inductive CertWrite
  | createSecret
  | updateSecret (cert : Bytes)
  | deleteSecret
  | deleteCSR (csr : Option KubeCSR)
  | createCSR
  | approveCSR
  deriving DecidableEq, Repr

structure CertState where
  secret : Option CertSecret
  cached : Option CertSecret
  csr : Option KubeCSR
  deriving DecidableEq, Repr

-- An error means that a request fails for another reason than that there is no such object.
structure CertAnswers (κ : Type) where
  getSecret : Option Bytes
  generateKey : Except Bytes κ
  createSecret : Option Bytes
  getCSR : Option Bytes
  deleteCSR : Option Bytes
  createCSR : Option Bytes
  updateApproval : Option Bytes
  updateSecret : Option Bytes
  deleteLast : Option Bytes
  deleteSecret : Option Bytes

structure CertCall where
  state : CertState
  writes : List CertWrite
  outdated : Bool
  result : Except Bytes Bytes

structure LoadedCert where
  secret : CertSecret
  inCache : Bool
  privateKeyBytes : Bytes
  certBytes : Bytes
  csrBytes : Bytes
  needToGetKubeCSR : Bool
  needToCreateKubeCSR : Bool

def nodeHostName : Bytes :=
  str "Hostname"

def nodeInternalDNS : Bytes :=
  str "InternalDNS"

def nodeExternalDNS : Bytes :=
  str "ExternalDNS"

def nodeInternalIP : Bytes :=
  str "InternalIP"

def nodeExternalIP : Bytes :=
  str "ExternalIP"

def isDNS (addr : Kube.NodeAddress) : Bool :=
  addr.kind = nodeHostName || addr.kind = nodeInternalDNS || addr.kind = nodeExternalDNS

def isIP (addr : Kube.NodeAddress) : Bool :=
  addr.kind = nodeInternalIP || addr.kind = nodeExternalIP

structure NodeCertController (κ : Type) where
  lib : X509 κ
  certAutoApprove : Bool
  name : Bytes
  certInfo : NodeCertSpec
  nodeAddresses : List Kube.NodeAddress

namespace NodeCertController

variable {κ : Type} (c : NodeCertController κ)

def certReq : CertificateRequest where
  commonName := str "system:node:" ++ c.name
  country := [c.certInfo.country]
  province := [c.certInfo.state]
  locality := [c.certInfo.locality]
  organization := [str "system:nodes"]
  organizationalUnit := [c.certInfo.orgUnit]
  dnsNames := (c.nodeAddresses.filter isDNS).map (·.address)
  ipAddresses := (c.nodeAddresses.filter isIP).map fun addr => (c.lib.parseIP addr.address).getD []

def validAddresses (req : CertificateRequest) : List Bytes :=
  req.ipAddresses.map c.lib.ipString ++ req.dnsNames

def covers (req : CertificateRequest) : Bool :=
  c.nodeAddresses.all fun addr => (c.validAddresses req).contains addr.address

def outdated (secret : CertSecret) : Bool :=
  match secret.privateKey, secret.csr with
  | some _, some csrBytes =>
    match c.lib.parseCSR csrBytes with
    | .ok oldCSR => !c.covers oldCSR
    | .error _ => false
  | _, _ => false

def getCertSecretObject (s : CertState) (a : CertAnswers κ) : Except (Option Bytes) (CertSecret × Bool) :=
  match s.cached with
  | some secret => .ok (secret, true)
  | none =>
    match a.getSecret with
    | some e => .error (some e)
    | none =>
      match s.secret with
      | some secret => .ok (secret, false)
      | none => .error none

def createSecret (a : CertAnswers κ) : Except Bytes LoadedCert := do
  let privateKey ← a.generateKey
  let csrBytes ← c.lib.generateCSR c.certReq privateKey
  let privateKeyBytes ← c.lib.marshalKey privateKey
  match a.createSecret with
  | some e => .error e
  | none => .ok {
      secret := ⟨some csrBytes, some privateKeyBytes, some []⟩
      inCache := false
      privateKeyBytes := privateKeyBytes
      certBytes := []
      csrBytes := csrBytes
      needToGetKubeCSR := true
      needToCreateKubeCSR := false }

-- A request that does not cover the addresses is generated again with the same key. It does not get into
-- the secret.
def loadSecret (secret : CertSecret) (inCache : Bool) : Except Bytes LoadedCert :=
  match secret.privateKey with
  | none => .error (str "invalid secret, missing private key")
  | some privateKeyBytes =>
    let certBytes := secret.cert.getD []
    let needToGetKubeCSR := certBytes.length = 0
    match secret.csr with
    | none =>
      if needToGetKubeCSR then
        .error (str "invalid secret, missing csr")
      else
        .ok ⟨secret, inCache, privateKeyBytes, certBytes, [], false, false⟩
    | some csrBytes =>
      match c.lib.parseCSR csrBytes with
      | .error e => .error (str "failed to parse old csr: " ++ e)
      | .ok oldCSR =>
        if c.covers oldCSR then
          .ok ⟨secret, inCache, privateKeyBytes, certBytes, csrBytes, needToGetKubeCSR, false⟩
        else do
          let key ← c.lib.parseKey privateKeyBytes
          let csrBytes ← c.lib.generateCSR c.certReq key
          .ok ⟨secret, inCache, privateKeyBytes, certBytes, csrBytes, true, true⟩

def newKubeCSR (csrBytes : Bytes) : KubeCSR where
  request := csrBytes
  signerName := str "kubernetes.io/kubelet-serving"
  groups := [str "system:nodes", str "system:authenticated"]
  usages := [str "key encipherment", str "digital signature", str "server auth"]
  conditions := []
  certificate := []

def autoApproval : CSRCondition where
  type := .approved
  reason := str "AranyaAutoApprove"
  message := str "This CSR was approved by aranya controller for EdgeDevice \"" ++ c.name ++ str "\""

variable (a : CertAnswers κ) (l : LoadedCert)

-- A secret with a certificate that does not fit to the key is deleted.
def loadKeyPair (s : CertState) (writes : List CertWrite) (certBytes : Bytes) : CertCall :=
  match c.lib.x509KeyPair certBytes l.privateKeyBytes with
  | none => ⟨s, writes, l.needToCreateKubeCSR, .ok certBytes⟩
  | some e =>
    match a.deleteSecret with
    | some _ => ⟨s, writes, l.needToCreateKubeCSR, .error e⟩
    | none => ⟨{ s with secret := none }, writes ++ [.deleteSecret], l.needToCreateKubeCSR, .error e⟩

-- The certificate was issued. If the secret is the one in the cache, then it is changed there at once.
def storeCert (s : CertState) (writes : List CertWrite) (certBytes : Bytes) : CertCall :=
  let secret := { l.secret with cert := some certBytes }
  let s := if l.inCache then { s with cached := some secret } else s
  match a.updateSecret with
  | some e => ⟨s, writes, l.needToCreateKubeCSR, .error e⟩
  | none =>
    let s := { s with secret := some secret }
    let writes := writes ++ [.updateSecret certBytes]
    match a.deleteLast with
    | some e => ⟨s, writes, l.needToCreateKubeCSR, .error e⟩
    | none => c.loadKeyPair a l { s with csr := none } (writes ++ [.deleteCSR s.csr]) certBytes

def checkIssued (s : CertState) (writes : List CertWrite) (csrReq : KubeCSR) : CertCall :=
  if csrReq.certificate.length = 0 then
    ⟨s, writes, l.needToCreateKubeCSR, .error (str "certificate not issued")⟩
  else
    c.storeCert a l s writes csrReq.certificate

def approve (s : CertState) (writes : List CertWrite) (csrReq : KubeCSR) : CertCall :=
  if !csrReq.decided && c.certAutoApprove then
    match a.updateApproval with
    | some e => ⟨s, writes, l.needToCreateKubeCSR, .error e⟩
    | none =>
      let csrReq := { csrReq with conditions := csrReq.conditions ++ [c.autoApproval] }
      c.checkIssued a l { s with csr := some csrReq } (writes ++ [.approveCSR]) csrReq
  else
    c.checkIssued a l s writes csrReq

def recreate (s : CertState) (writes : List CertWrite) : CertCall :=
  match a.deleteCSR with
  | some e => ⟨s, writes, l.needToCreateKubeCSR, .error e⟩
  | none =>
    let writes := writes ++ [.deleteCSR s.csr]
    let s := { s with csr := none }
    match a.createCSR with
    | some e => ⟨s, writes, l.needToCreateKubeCSR, .error e⟩
    | none =>
      let csrReq := newKubeCSR l.csrBytes
      c.approve a l { s with csr := some csrReq } (writes ++ [.createCSR]) csrReq

def getKubeCSR (s : CertState) (writes : List CertWrite) : CertCall :=
  match a.getCSR with
  | some e => ⟨s, writes, l.needToCreateKubeCSR, .error e⟩
  | none =>
    match s.csr with
    | none => c.recreate a l s writes
    | some csrReq =>
      if l.needToCreateKubeCSR then c.recreate a l s writes else c.approve a l s writes csrReq

def continueWith (s : CertState) (writes : List CertWrite) : CertCall :=
  if l.needToGetKubeCSR then c.getKubeCSR a l s writes else c.loadKeyPair a l s writes l.certBytes

def ensureKubeletServerCert (s : CertState) : CertCall :=
  match getCertSecretObject s a with
  | .error (some e) => ⟨s, [], false, .error e⟩
  | .error none =>
    match c.createSecret a with
    | .error e => ⟨s, [], false, .error e⟩
    | .ok l => c.continueWith a l { s with secret := some l.secret } [.createSecret]
  | .ok (secret, inCache) =>
    match c.loadSecret secret inCache with
    | .error e => ⟨s, [], c.outdated secret, .error e⟩
    | .ok l => c.continueWith a l s []

inductive Action (κ : Type)
  | ensure (a : CertAnswers κ)
  | decide (condition : CSRCondition)
  | sign (certificate : Bytes)
  | sync

def step (s : CertState) : Action κ → Option CertState
  | .ensure a => some (c.ensureKubeletServerCert a s).state
  | .decide condition => s.csr.map fun csr =>
    { s with csr := some { csr with conditions := csr.conditions ++ [condition] } }
  | .sign certificate =>
    s.csr.bind fun csr =>
      if csr.conditions.any (·.type = .approved) then
        some { s with csr := some { csr with certificate := certificate } }
      else
        none
  | .sync => some { s with cached := s.secret }

end NodeCertController
end Aranya.EdgeDevice
