import Aranya.Connectivity.IoTHub
import Aranya.Lib.Except
import Aranya.Lib.List

namespace Aranya.IoTHub

variable {toLower : Bytes → Bytes} {sep : UInt8} {s pre post : Bytes} {kvs : List Bytes} {kv : Bytes}
    {parsed parsed' : ParsedConn}

theorem splitTwo_eq_some_iff : splitTwo sep s = some (pre, post) ↔ s = pre ++ sep :: post ∧ sep ∉ pre := by
  induction s generalizing pre
  case nil => simp [splitTwo]
  case cons c s hi =>
    rw [splitTwo]
    split
    case isTrue => cases pre <;> grind
    case isFalse hc =>
      cases pre
      case nil => simp [hc]
      case cons d pre =>
        simp only [Option.map_eq_some_iff, Prod.exists, Prod.mk.injEq, List.cons.injEq]
        grind

def hostName : Bytes :=
  str "hostname"

def sharedAccessKeyName : Bytes :=
  str "sharedaccesskeyname"

def sharedAccessKey : Bytes :=
  str "sharedaccesskey"

theorem names_ne :
    hostName ≠ sharedAccessKeyName ∧ hostName ≠ sharedAccessKey ∧ sharedAccessKeyName ≠ sharedAccessKey := by
  decide

def valueOf (toLower : Bytes → Bytes) (name kv : Bytes) : Option Bytes :=
  (splitTwo 61 kv).bind fun (n, value) => if toLower n = name then some value else none

def Accepted (toLower : Bytes → Bytes) (kv : Bytes) : Prop :=
  splitTwo 61 kv ≠ none ∧ (∀ host, valueOf toLower hostName kv = some host → splitTwo 46 host ≠ none) ∧
    ∀ text, valueOf toLower sharedAccessKey kv = some text → Base64.decode text ≠ none

def setPair (toLower : Bytes → Bytes) (parsed : ParsedConn) (kv : Bytes) : ParsedConn where
  host := (valueOf toLower hostName kv).getD parsed.host
  hubName := ((valueOf toLower hostName kv).bind fun host => (splitTwo 46 host).map Prod.fst).getD parsed.hubName
  keyName := (valueOf toLower sharedAccessKeyName kv).getD parsed.keyName
  key := ((valueOf toLower sharedAccessKey kv).bind Base64.decode).getD parsed.key

theorem addPair_eq_ok_iff :
    addPair toLower parsed kv = .ok parsed' ↔ Accepted toLower kv ∧ parsed' = setPair toLower parsed kv := by
  obtain ⟨h₁, h₂, h₃⟩ := names_ne
  rw [addPair, ← hostName, ← sharedAccessKeyName, ← sharedAccessKey]
  split
  case h_1 hs => simp [Accepted, hs]
  case h_2 name value hs =>
    have hv (n : Bytes) : valueOf toLower n kv = if toLower name = n then some value else none := by
      simp [valueOf, hs]
    simp only [Accepted, setPair, hv, hs, ne_eq, reduceCtorEq, not_false_eq_true, true_and]
    by_cases hn : toLower name = hostName
    case pos => cases hd : splitTwo 46 value <;> simp [hn, h₁, h₂, hd, eq_comm]
    case neg =>
      by_cases hk : toLower name = sharedAccessKeyName
      case pos => simp [hk, h₁.symm, h₃, eq_comm]
      case neg =>
        by_cases ha : toLower name = sharedAccessKey
        case pos => cases hd : Base64.decode value <;> simp [ha, h₂.symm, h₃.symm, hd, eq_comm]
        case neg => simpa [hn, hk, ha] using eq_comm

def values (toLower : Bytes → Bytes) (name : Bytes) (kvs : List Bytes) : List Bytes :=
  kvs.filterMap (valueOf toLower name)

-- The last pair of each name counts.
theorem foldl_setPair : kvs.foldl (setPair toLower) parsed =
    { host := (values toLower hostName kvs).getLastD parsed.host
      hubName := ((values toLower hostName kvs).filterMap fun host => (splitTwo 46 host).map Prod.fst).getLastD
        parsed.hubName
      keyName := (values toLower sharedAccessKeyName kvs).getLastD parsed.keyName
      key := ((values toLower sharedAccessKey kvs).filterMap Base64.decode).getLastD parsed.key } := by
  simp only [values, List.filterMap_filterMap, ← foldl_getD]
  induction kvs generalizing parsed
  case nil => rfl
  case cons kv kvs hi =>
    exact hi

theorem parse_eq_ok_iff : parseIoTHubConnectionString toLower s = .ok parsed ↔
    (∀ kv ∈ s.splitOn 59, Accepted toLower kv) ∧
    parsed = (s.splitOn 59).foldl (setPair toLower) ⟨[], [], [], []⟩ ∧
    parsed.keyName ≠ [] ∧ parsed.key ≠ [] ∧ parsed.host ≠ [] ∧ parsed.hubName ≠ [] := by
  have hf (parsed : ParsedConn) : (s.splitOn 59).foldlM (addPair toLower) ⟨[], [], [], []⟩ = .ok parsed ↔ _ :=
    Except.foldlM_eq_ok_iff (g := addPair toLower) (f := setPair toLower) fun _ _ _ => addPair_eq_ok_iff
  simp only [parseIoTHubConnectionString, Except.bind_eq_ok_iff, hf]
  constructor
  case mp =>
    rintro ⟨_, ⟨ha, hp⟩, h⟩
    split at h
    case isTrue => cases h
    case isFalse hc =>
      cases h
      simp only [not_or] at hc
      exact ⟨ha, hp, hc⟩
  case mpr =>
    rintro ⟨ha, hp, h⟩
    refine ⟨parsed, ⟨ha, hp⟩, if_neg ?_⟩
    simpa only [not_or] using h

def connectionString (pairs : List (Bytes × Bytes)) : Bytes :=
  [59].intercalate (pairs.map fun (name, value) => name ++ 61 :: value)

-- The pairs which are needed, under names in any letter case, and others. Separators only occur as `=` in
-- values.
structure Renders (toLower : Bytes → Bytes) (host keyName key : Bytes) (pairs : List (Bytes × Bytes)) : Prop where
  perm : ∃ n₁ n₂ n₃ others,
    pairs.Perm ((n₁, host) :: (n₂, keyName) :: (n₃, Base64.encode key) :: others) ∧
    toLower n₁ = hostName ∧ toLower n₂ = sharedAccessKeyName ∧ toLower n₃ = sharedAccessKey ∧
    ∀ p ∈ others, toLower p.fst ∉ [hostName, sharedAccessKeyName, sharedAccessKey] ∧ 59 ∉ p.snd
  names : ∀ p ∈ pairs, 61 ∉ p.fst ∧ 59 ∉ p.fst
  host : 59 ∉ host
  keyName : 59 ∉ keyName

namespace Renders

variable {host keyName key : Bytes} {pairs : List (Bytes × Bytes)}

theorem splitOn (h : Renders toLower host keyName key pairs) :
    (connectionString pairs).splitOn 59 = pairs.map fun (name, value) => name ++ 61 :: value := by
  obtain ⟨n₁, n₂, n₃, others, hp, -, -, -, ho⟩ := h.perm
  apply List.splitOn_intercalate
  case hx =>
    intro l hl
    obtain ⟨p, hm, rfl⟩ := List.mem_map.mp hl
    have hn := (h.names p hm).right
    have hv : 59 ∉ p.snd := by
      rcases List.mem_cons.mp (hp.mem_iff.mp hm) with rfl | hm
      case inl => exact h.host
      rcases List.mem_cons.mp hm with rfl | hm
      case inl => exact h.keyName
      rcases List.mem_cons.mp hm with rfl | hm
      case inl => exact Base64.not_mem_encode (by decide) (by decide)
      exact (ho p hm).right
    simp [hn, hv]
  case hls =>
    intro hn
    rw [List.map_eq_nil_iff.mp hn] at hp
    cases hp.nil_eq

theorem values_eq (h : Renders toLower host keyName key pairs) :
    values toLower hostName ((connectionString pairs).splitOn 59) = [host] ∧
    values toLower sharedAccessKeyName ((connectionString pairs).splitOn 59) = [keyName] ∧
    values toLower sharedAccessKey ((connectionString pairs).splitOn 59) = [Base64.encode key] := by
  obtain ⟨n₁, n₂, n₃, others, hp, h₁, h₂, h₃, ho⟩ := h.perm
  let value (n : Bytes) (p : Bytes × Bytes) : Option Bytes := if toLower p.fst = n then some p.snd else none
  have hv (n : Bytes) : values toLower n ((connectionString pairs).splitOn 59) = pairs.filterMap (value n) := by
    rw [values, h.splitOn, List.filterMap_map]
    apply List.filterMap_congr
    intro p hm
    have hs : splitTwo 61 (p.fst ++ 61 :: p.snd) = some p :=
      splitTwo_eq_some_iff.mpr ⟨rfl, (h.names p hm).left⟩
    simp [valueOf, hs, value]
  have hn (n : Bytes) (hn : n ∈ [hostName, sharedAccessKeyName, sharedAccessKey]) :
      others.filterMap (value n) = [] := by
    rw [List.filterMap_eq_nil_iff]
    intro p hm
    apply if_neg
    rintro rfl
    exact (ho p hm).left hn
  obtain ⟨d₁, d₂, d₃⟩ := names_ne
  simp only [hv, ← List.perm_singleton]
  refine ⟨(hp.filterMap _).trans (.of_eq ?_), (hp.filterMap _).trans (.of_eq ?_),
    (hp.filterMap _).trans (.of_eq ?_)⟩
  case refine_1 =>
    have hn := hn hostName (by simp)
    simp [hn, value, h₁, h₂, h₃, d₁.symm, d₂.symm]
  case refine_2 =>
    have hn := hn sharedAccessKeyName (by simp)
    simp [hn, value, h₁, h₂, h₃, d₁, d₃.symm]
  case refine_3 =>
    have hn := hn sharedAccessKey (by simp)
    simp [hn, value, h₁, h₂, h₃, d₂, d₃]

theorem accepted (h : Renders toLower host keyName key pairs) (hd : splitTwo 46 host ≠ none)
    (hk : kv ∈ (connectionString pairs).splitOn 59) : Accepted toLower kv := by
  obtain ⟨h₁, -, h₃⟩ := h.values_eq
  refine ⟨?_, ?_, ?_⟩
  case refine_1 =>
    rw [h.splitOn] at hk
    obtain ⟨p, hm, rfl⟩ := List.mem_map.mp hk
    simp [splitTwo_eq_some_iff.mpr ⟨rfl, (h.names p hm).left⟩]
  case refine_2 =>
    intro value hv
    have hm : value ∈ values toLower hostName _ := List.mem_filterMap.mpr ⟨kv, hk, hv⟩
    obtain rfl := List.mem_singleton.mp (h₁ ▸ hm)
    exact hd
  case refine_3 =>
    intro text hv
    have hm : text ∈ values toLower sharedAccessKey _ := List.mem_filterMap.mpr ⟨kv, hk, hv⟩
    obtain rfl := List.mem_singleton.mp (h₃ ▸ hm)
    simp [Base64.decode_encode]

end Renders

def HasPair (toLower : Bytes → Bytes) (name s : Bytes) : Prop :=
  ∃ n value, n ++ 61 :: value ∈ s.splitOn 59 ∧ 61 ∉ n ∧ toLower n = name

theorem hasPair_of_values {name : Bytes} (h : values toLower name (s.splitOn 59) ≠ []) :
    HasPair toLower name s := by
  obtain ⟨value, hv⟩ := List.exists_mem_of_ne_nil _ h
  obtain ⟨kv, hk, hv⟩ := List.mem_filterMap.mp hv
  obtain ⟨⟨n, value'⟩, hs, hl⟩ := Option.bind_eq_some_iff.mp hv
  obtain ⟨rfl, hn⟩ := splitTwo_eq_some_iff.mp hs
  exact ⟨n, value', hk, hn, (Option.ite_none_right_eq_some.mp hl).left⟩

-- A connection string is parsed to what it was rendered from, and none is accepted that lacks a pair.
theorem connectionString_round_trip (toLower : Bytes → Bytes) :
    (∀ (hub domain keyName key : Bytes) (pairs : List (Bytes × Bytes)),
      hub ≠ [] → 46 ∉ hub → keyName ≠ [] → key ≠ [] →
      Renders toLower (hub ++ 46 :: domain) keyName key pairs →
      parseIoTHubConnectionString toLower (connectionString pairs) =
        .ok ⟨hub ++ 46 :: domain, hub, keyName, key⟩) ∧
    ∀ (s : Bytes) (parsed : ParsedConn), parseIoTHubConnectionString toLower s = .ok parsed →
      ∀ name ∈ [hostName, sharedAccessKeyName, sharedAccessKey], HasPair toLower name s := by
  constructor
  case left =>
    intro hub domain keyName key pairs hh hd hn hk h
    obtain ⟨h₁, h₂, h₃⟩ := h.values_eq
    have hs : splitTwo 46 (hub ++ 46 :: domain) = some (hub, domain) := splitTwo_eq_some_iff.mpr ⟨rfl, hd⟩
    refine parse_eq_ok_iff.mpr ⟨fun kv => h.accepted (by simp [hs]), ?_, hn, hk, by simp, hh⟩
    rw [foldl_setPair, h₁, h₂, h₃]
    simp [hs, Base64.decode_encode]
  case right =>
    intro s parsed h
    obtain ⟨-, hp, h₁, h₂, h₃, -⟩ := parse_eq_ok_iff.mp h
    rw [foldl_setPair] at hp
    subst hp
    simp only [List.forall_mem_cons, List.not_mem_nil, false_imp_iff, implies_true, and_true]
    refine ⟨hasPair_of_values ?_, hasPair_of_values ?_, hasPair_of_values ?_⟩
    case refine_1 => exact fun hn => h₃ (by simp [hn])
    case refine_2 => exact fun hn => h₁ (by simp [hn])
    case refine_3 => exact fun hn => h₂ (by simp [hn])

def asciiLower : Bytes → Bytes :=
  List.map fun c => if 65 ≤ c ∧ c ≤ 90 then c + 32 else c

def mixedPairs : List (Bytes × Bytes) :=
  [(str "SHAREDACCESSKEY", Base64.encode [1]), (str "x", str "="), (str "HostName", str "a.b"),
   (str "sharedAccessKeyName", str "k")]

theorem connectionString_round_trip_mixed :
    parseIoTHubConnectionString asciiLower (connectionString mixedPairs) =
      .ok ⟨str "a.b", str "a", str "k", [1]⟩ := by
  have hr : Renders asciiLower (str "a" ++ 46 :: str "b") (str "k") [1] mixedPairs := by
    refine ⟨⟨str "HostName", str "sharedAccessKeyName", str "SHAREDACCESSKEY", [(str "x", str "=")], ?_⟩,
      ?_, ?_, ?_⟩
    all_goals decide
  apply (connectionString_round_trip asciiLower).left _ _ _ _ _ _ _ _ _ hr
  all_goals decide

end Aranya.IoTHub
