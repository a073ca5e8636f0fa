import Aranya.Controller.NodeCert
import Aranya.Lib.Except

namespace Aranya.EdgeDevice.NodeCertController

variable {κ : Type} {c : NodeCertController κ} {a : CertAnswers κ} {l : LoadedCert} {s s' s₀ : CertState}
    {writes : List CertWrite} {secret : CertSecret} {csrReq : KubeCSR} {cert : Bytes} {act : Action κ}
    {as : List (Action κ)} {inCache : Bool} {w : CertWrite}

def Covered (c : NodeCertController κ) (csr : KubeCSR) : Prop :=
  ∃ req, c.lib.parseCSR csr.request = .ok req ∧ c.covers req

def Kept (c : NodeCertController κ) (writes : List CertWrite) : Prop :=
  ∀ pre post csr, writes = pre ++ .deleteCSR (some csr) :: post → c.Covered csr →
    .updateSecret csr.certificate ∈ pre

structure Stable (c : NodeCertController κ) (s₀ : CertState) (as : List (Action κ)) : Prop where
  kept : ∀ pre a post s, as = pre ++ .ensure a :: post → Execution c.step s₀ pre s →
    c.Kept (c.ensureKubeletServerCert a s).writes
  settled : ∀ pre a mid b post s s' cert, as = pre ++ .ensure a :: mid ++ .ensure b :: post →
    Execution c.step s₀ pre s → (c.ensureKubeletServerCert a s).result = .ok cert →
    Execution c.step s₀ (pre ++ .ensure a :: mid) s' → (c.ensureKubeletServerCert b s').outdated = false

-- Every address is a name, or an address in the form in which addresses are printed.
def Canonical (c : NodeCertController κ) : Prop :=
  ∀ addr ∈ c.nodeAddresses, isDNS addr ∨
    isIP addr ∧ ∃ ip, c.lib.parseIP addr.address = some ip ∧ c.lib.ipString ip = addr.address

def Fresh (c : NodeCertController κ) (s : CertState) : Prop :=
  (∀ secret, s.secret = some secret → c.outdated secret = false) ∧
  ∀ secret, s.cached = some secret → c.outdated secret = false

theorem kept_nil : c.Kept [] := by
  intro pre post csr h
  simp at h

theorem kept_concat :
    c.Kept (writes ++ [w]) ↔ c.Kept writes ∧
    ∀ csr, w = .deleteCSR (some csr) → c.Covered csr → .updateSecret csr.certificate ∈ writes := by
  constructor
  case mp =>
    intro h
    constructor
    case left =>
      rintro pre post csr rfl hc
      exact h pre (post ++ [w]) csr (by simp) hc
    case right =>
      rintro csr rfl hc
      exact h writes [] csr rfl hc
  case mpr =>
    rintro ⟨h, hw⟩ pre post csr he hc
    rcases post.eq_nil_or_concat with rfl | ⟨post, w', rfl⟩
    case inl =>
      obtain ⟨rfl, hd⟩ := List.append_inj' he rfl
      exact hw csr (by simpa using hd) hc
    case inr =>
      rw [List.concat_eq_append, ← List.cons_append, ← List.append_assoc] at he
      exact h pre post csr (List.append_inj' he rfl).left hc

theorem Kept.concat (h : c.Kept writes) (hw : ∀ csr, w ≠ .deleteCSR (some csr)) : c.Kept (writes ++ [w]) :=
  kept_concat.mpr ⟨h, fun csr he => absurd he (hw csr)⟩

theorem covers_certReq {req : CertificateRequest} (hc : c.Canonical)
    (hd : req.dnsNames = c.certReq.dnsNames)
    (hi : req.ipAddresses.map c.lib.ipString = c.certReq.ipAddresses.map c.lib.ipString) : c.covers req := by
  simp only [covers, List.all_eq_true, List.contains_iff_mem, validAddresses, hd, hi, List.mem_append]
  intro addr ha
  rcases hc addr ha with h | ⟨h, ip, hp, ht⟩
  case inl => exact .inr <| List.mem_map.mpr ⟨addr, List.mem_filter.mpr ⟨ha, h⟩, rfl⟩
  case inr =>
    refine .inl <| List.mem_map.mpr ⟨ip, ?_, ht⟩
    exact List.mem_map.mpr ⟨addr, List.mem_filter.mpr ⟨ha, h⟩, by rw [hp, Option.getD_some]⟩

theorem not_isDNS_of_isIP {addr : Kube.NodeAddress} (h : isIP addr) : isDNS addr = false := by
  simp only [isIP, Bool.or_eq_true, decide_eq_true_iff] at h
  rcases h with h | h <;> simp only [isDNS, h] <;> decide

theorem covers_generateCSR {key : κ} {csr : Bytes} (hc : c.Canonical)
    (h : c.lib.generateCSR c.certReq key = .ok csr) : ∃ req, c.lib.parseCSR csr = .ok req ∧ c.covers req := by
  have hp : ∀ ip ∈ c.certReq.ipAddresses, ∃ text, c.lib.parseIP text = some ip := by
    intro ip hm
    obtain ⟨addr, ha, rfl⟩ := List.mem_map.mp hm
    obtain ⟨ha, hi⟩ := List.mem_filter.mp ha
    rcases hc addr ha with hd | ⟨_, ip, hp, _⟩
    case inl => simp [not_isDNS_of_isIP hi] at hd
    case inr => exact ⟨addr.address, by rw [hp, Option.getD_some]⟩
  obtain ⟨req, hr, hd, hi⟩ := c.lib.parse_generate h hp
  exact ⟨req, hr, covers_certReq hc hd hi⟩

theorem createSecret_fresh (hc : c.Canonical) (h : c.createSecret a = .ok l) :
    c.outdated l.secret = false ∧ l.needToCreateKubeCSR = false := by
  obtain ⟨key, _, h⟩ := Except.bind_eq_ok_iff.mp h
  obtain ⟨csr, hg, h⟩ := Except.bind_eq_ok_iff.mp h
  obtain ⟨keyBytes, _, h⟩ := Except.bind_eq_ok_iff.mp h
  split at h <;> cases h
  obtain ⟨req, hr, hq⟩ := covers_generateCSR hc hg
  exact ⟨by simp [outdated, hr, hq], rfl⟩

theorem loadSecret_eq_ok (h : c.loadSecret secret inCache = .ok l) :
    l.secret = secret ∧ l.needToCreateKubeCSR = c.outdated secret ∧
    (l.needToCreateKubeCSR → ∃ key, c.lib.generateCSR c.certReq key = .ok l.csrBytes) := by
  simp only [loadSecret] at h
  split at h
  case h_1 => cases h
  case h_2 key hk =>
    split at h
    case h_1 hs =>
      split at h <;> cases h
      exact ⟨rfl, by simp [outdated, hs], by simp⟩
    case h_2 csr hs =>
      split at h
      case h_1 => cases h
      case h_2 oldCSR hp =>
        split at h
        case isTrue hq =>
          cases h
          exact ⟨rfl, by simp [outdated, hk, hs, hp, hq], by simp⟩
        case isFalse hq =>
          obtain ⟨key, _, h⟩ := Except.bind_eq_ok_iff.mp h
          obtain ⟨csr, hg, h⟩ := Except.bind_eq_ok_iff.mp h
          cases h
          exact ⟨rfl, by simp [outdated, hk, hs, hp, hq], fun _ => ⟨key, hg⟩⟩

structure Fine (c : NodeCertController κ) (call : CertCall) : Prop where
  fresh : c.Fresh call.state
  kept : c.Kept call.writes
  current : call.outdated = false

section

variable (hf : c.Fresh s) (hk : c.Kept writes) (hl : c.outdated l.secret = false)
    (hn : l.needToCreateKubeCSR = false)

include hf hk hn

theorem fine_loadKeyPair : c.Fine (c.loadKeyPair a l s writes cert) := by
  simp only [loadKeyPair]
  split
  case h_1 => exact ⟨hf, hk, hn⟩
  case h_2 =>
    split
    case h_1 => exact ⟨hf, hk, hn⟩
    case h_2 => exact ⟨⟨by simp, hf.right⟩, hk.concat (by simp), hn⟩

include hl

theorem fine_storeCert (hs : ∀ csr, s.csr = some csr → csr.certificate = cert) :
    c.Fine (c.storeCert a l s writes cert) := by
  have ho : c.outdated { l.secret with cert := some cert } = false := hl
  have hf' :
      c.Fresh (if l.inCache then { s with cached := some { l.secret with cert := some cert } } else s) := by
    split
    case isTrue => exact ⟨hf.left, fun _ h => by cases h; exact ho⟩
    case isFalse => exact hf
  simp only [storeCert]
  split
  case h_1 => exact ⟨hf', hk, hn⟩
  case h_2 =>
    have hk' : c.Kept (writes ++ [.updateSecret cert]) := hk.concat (by simp)
    split
    case h_1 => exact ⟨⟨fun _ h => by cases h; exact ho, hf'.right⟩, hk', hn⟩
    case h_2 =>
      refine fine_loadKeyPair ⟨fun _ h => by cases h; exact ho, hf'.right⟩ (kept_concat.mpr ⟨hk', ?_⟩) hn
      intro csr hd _
      have hs : csr.certificate = cert := by
        refine hs csr ?_
        cases hb : l.inCache <;> simpa [hb] using hd
      simp [hs]

theorem fine_checkIssued (hs : s.csr = some csrReq) : c.Fine (c.checkIssued a l s writes csrReq) := by
  simp only [checkIssued]
  split
  case isTrue => exact ⟨hf, hk, hn⟩
  case isFalse =>
    refine fine_storeCert hf hk hl hn fun csr h => ?_
    cases hs.symm.trans h
    rfl

theorem fine_approve (hs : s.csr = some csrReq) : c.Fine (c.approve a l s writes csrReq) := by
  simp only [approve]
  split
  case isFalse => exact fine_checkIssued hf hk hl hn hs
  case isTrue =>
    split
    case h_1 => exact ⟨hf, hk, hn⟩
    case h_2 => exact fine_checkIssued hf (hk.concat (by simp)) hl hn rfl

theorem fine_recreate (hs : s.csr = none) : c.Fine (c.recreate a l s writes) := by
  simp only [recreate, hs]
  split
  case h_1 => exact ⟨hf, hk, hn⟩
  case h_2 =>
    have hk' : c.Kept (writes ++ [.deleteCSR none]) := hk.concat (by simp)
    split
    case h_1 => exact ⟨hf, hk', hn⟩
    case h_2 => exact fine_approve hf (hk'.concat (by simp)) hl hn rfl

theorem fine_continueWith : c.Fine (c.continueWith a l s writes) := by
  simp only [continueWith]
  split
  case isFalse => exact fine_loadKeyPair hf hk hn
  case isTrue =>
    simp only [getKubeCSR]
    split
    case h_1 => exact ⟨hf, hk, hn⟩
    case h_2 =>
      split
      case h_1 hs => exact fine_recreate hf hk hl hn hs
      case h_2 csrReq hs =>
        rw [if_neg (by simp [hn])]
        exact fine_approve hf hk hl hn hs

end

theorem getCertSecretObject_eq_ok (h : getCertSecretObject s a = .ok (secret, inCache)) :
    s.secret = some secret ∨ s.cached = some secret := by
  simp only [getCertSecretObject] at h
  split at h
  case h_1 hs =>
    cases h
    exact .inr hs
  case h_2 =>
    split at h
    case h_1 => cases h
    case h_2 =>
      split at h <;> cases h
      case h_1 hs => exact .inl hs

theorem fine_ensureKubeletServerCert (hc : c.Canonical) (hf : c.Fresh s) :
    c.Fine (c.ensureKubeletServerCert a s) := by
  simp only [ensureKubeletServerCert]
  split
  case h_1 => exact ⟨hf, kept_nil, rfl⟩
  case h_2 =>
    split
    case h_1 => exact ⟨hf, kept_nil, rfl⟩
    case h_2 l h =>
      obtain ⟨hl, hn⟩ := createSecret_fresh hc h
      have hk : c.Kept ([] ++ [.createSecret]) := kept_nil.concat (by simp)
      exact fine_continueWith ⟨fun _ h => by cases h; exact hl, hf.right⟩ hk hl hn
  case h_3 secret inCache h =>
    have ho : c.outdated secret = false := by
      rcases getCertSecretObject_eq_ok h with h | h
      case inl => exact hf.left secret h
      case inr => exact hf.right secret h
    split
    case h_1 => exact ⟨hf, kept_nil, ho⟩
    case h_2 l h =>
      obtain ⟨hl, hn, _⟩ := loadSecret_eq_ok h
      exact fine_continueWith hf kept_nil (hl ▸ ho) (hn.trans ho)

theorem fresh_step (hc : c.Canonical) (hf : c.Fresh s) (h : c.step s act = some s') : c.Fresh s' := by
  cases act
  case ensure a =>
    cases h
    exact (fine_ensureKubeletServerCert hc hf).fresh
  case decide condition =>
    obtain ⟨csr, _, rfl⟩ := Option.map_eq_some_iff.mp h
    exact hf
  case sign certificate =>
    obtain ⟨csr, _, h⟩ := Option.bind_eq_some_iff.mp h
    split at h <;> cases h
    exact hf
  case sync =>
    cases h
    exact ⟨hf.left, hf.left⟩

theorem stable_of_fresh (hc : c.Canonical) (hf : c.Fresh s₀) : c.Stable s₀ as where
  kept _ _ _ _ _ e := (fine_ensureKubeletServerCert hc <| e.preserves (fresh_step hc) hf).kept
  settled _ _ _ _ _ _ _ _ _ _ _ e :=
    (fine_ensureKubeletServerCert hc <| e.preserves (fresh_step hc) hf).current

def accepted : CertAnswers κ where
  getSecret := none
  generateKey := .error []
  createSecret := none
  getCSR := none
  deleteCSR := none
  createCSR := none
  updateApproval := none
  updateSecret := none
  deleteLast := none
  deleteSecret := none

structure Regenerates (c : NodeCertController κ) (s : CertState) (l : LoadedCert) : Prop where
  read : ∃ inCache, getCertSecretObject s (accepted : CertAnswers κ) = .ok (l.secret, inCache) ∧
    c.loadSecret l.secret inCache = .ok l
  outdated : l.needToGetKubeCSR ∧ l.needToCreateKubeCSR

theorem ensureKubeletServerCert_regenerates (h : c.Regenerates s l) :
    ∃ csrReq, csrReq.request = l.csrBytes ∧
      (c.ensureKubeletServerCert accepted s).state = { s with csr := some csrReq } ∧
      ∃ writes, (c.ensureKubeletServerCert accepted s).writes = .deleteCSR s.csr :: writes := by
  obtain ⟨inCache, hg, hl⟩ := h.read
  have he : c.ensureKubeletServerCert accepted s = c.recreate accepted l s [] := by
    simp only [ensureKubeletServerCert, hg, hl, continueWith, h.outdated.left, getKubeCSR, h.outdated.right]
    cases hs : s.csr <;> simp [accepted]
  rw [he]
  cases hc : c.certAutoApprove
  case false =>
    refine ⟨newKubeCSR l.csrBytes, rfl, ?_, ?_⟩ <;>
      simp [recreate, accepted, approve, hc, checkIssued, newKubeCSR]
  case true =>
    refine ⟨{ newKubeCSR l.csrBytes with conditions := [c.autoApproval] }, rfl, ?_, ?_⟩ <;>
      simp [recreate, accepted, approve, hc, checkIssued, newKubeCSR, KubeCSR.decided]

theorem Regenerates.covers (hc : c.Canonical) (h : c.Regenerates s l) :
    ∃ req, c.lib.parseCSR l.csrBytes = .ok req ∧ c.covers req := by
  obtain ⟨inCache, _, hl⟩ := h.read
  obtain ⟨_, _, hg⟩ := loadSecret_eq_ok hl
  obtain ⟨key, hg⟩ := hg h.outdated.right
  exact covers_generateCSR hc hg

-- The next call finds the stored request outdated again, and deletes the CSR of the first one.
theorem not_stable_of_regenerates (hc : c.Canonical) (h : c.Regenerates s₀ l) :
    ¬c.Stable s₀ [.ensure accepted, .ensure accepted] := by
  intro hs
  obtain ⟨csrReq, hr, hs₁, _⟩ := ensureKubeletServerCert_regenerates h
  have h₁ : c.Regenerates { s₀ with csr := some csrReq } l := ⟨h.read, h.outdated⟩
  obtain ⟨_, _, _, writes, hw⟩ := ensureKubeletServerCert_regenerates h₁
  have hk := hs.kept [.ensure accepted] accepted [] _ rfl <| .single <| congrArg some hs₁
  have hc : c.Covered csrReq := by
    rw [Covered, hr]
    exact h.covers hc
  have hm := hk [] writes csrReq hw hc
  cases hm

def oneName : X509 Unit where
  parseIP _ := none
  ipString ip := ip
  generateCSR req _ :=
    match req.dnsNames, req.ipAddresses with
    | [name], [] => .ok name
    | _, _ => .error (str "not supported")
  parseCSR csr := .ok ⟨[], [], [], [], [], [], [csr], []⟩
  marshalKey _ := .ok (str "key")
  parseKey _ := .ok ()
  x509KeyPair _ _ := none
  parse_generate {req _ csr} h _ := by
    refine ⟨_, rfl, ?_⟩
    split at h <;> cases h
    case h_1 hi hd => exact ⟨hd.symm, by rw [hi]⟩

def renamed : NodeCertController Unit where
  lib := oneName
  certAutoApprove := true
  name := str "edge"
  certInfo := ⟨[], [], [], []⟩
  nodeAddresses := [⟨nodeHostName, str "new"⟩]

theorem canonical_renamed : renamed.Canonical := by
  intro addr ha
  cases List.mem_singleton.mp ha
  exact .inl rfl

def created (host : Bytes) : CertState where
  secret := some ⟨some host, some (str "key"), some []⟩
  cached := none
  csr := none

theorem stable_of_fresh_created :
    renamed.Canonical ∧ renamed.Fresh (created (str "new")) ∧
    ∀ as, renamed.Stable (created (str "new")) as := by
  have hf : renamed.Fresh (created (str "new")) := ⟨fun _ h => by cases h; decide, nofun⟩
  exact ⟨canonical_renamed, hf, fun _ => stable_of_fresh canonical_renamed hf⟩

def regenerated : LoadedCert where
  secret := ⟨some (str "old"), some (str "key"), some []⟩
  inCache := false
  privateKeyBytes := str "key"
  certBytes := []
  csrBytes := str "new"
  needToGetKubeCSR := true
  needToCreateKubeCSR := true

-- After the host got another name, every call replaces the CSR.
theorem not_stable_renamed : ¬renamed.Stable (created (str "old")) [.ensure accepted, .ensure accepted] := by
  have h : renamed.Regenerates (created (str "old")) regenerated := ⟨⟨false, rfl, rfl⟩, rfl, rfl⟩
  exact not_stable_of_regenerates canonical_renamed h

end Aranya.EdgeDevice.NodeCertController
