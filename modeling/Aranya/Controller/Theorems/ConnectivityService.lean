import Aranya.Controller.ConnectivityService
import Aranya.Lib.TreeMap

namespace Aranya.EdgeDevice

open Std (ExtTreeMap)

variable {c : ConnectivityServiceController} {svc : Kube.Service} {ports : List Kube.ServicePort}
    {s : PortCheck} {p : Kube.ServicePort}

def portEntry (p : Kube.ServicePort) : Bytes × Int × Int :=
  (p.name, p.port, p.targetPort.intValue)

def requiredEntry (e : Bytes × Int) : Bytes × Int × Int :=
  (e.fst, e.snd, e.snd)

theorem mem_requiredEntries {m : ExtTreeMap Bytes Int} :
    portEntry p ∈ m.toList.map requiredEntry ↔ m[p.name]? = some p.port ∧ p.targetPort.intValue = p.port := by
  rw [← ExtTreeMap.mem_toList_iff_getElem?_eq_some, List.mem_map]
  constructor
  case mp =>
    rintro ⟨⟨n, v⟩, hm, he⟩
    obtain ⟨rfl, rfl, ht⟩ : n = p.name ∧ v = p.port ∧ v = p.targetPort.intValue := by
      simpa [requiredEntry, portEntry] using he
    exact ⟨hm, ht.symm⟩
  case mpr =>
    rintro ⟨hm, ht⟩
    exact ⟨_, hm, by simp [requiredEntry, portEntry, ht]⟩

namespace PortCheck

def Passed (s : PortCheck) : Prop :=
  s.hasUnknownPort = false ∧ s.upToDate = true ∧ s.requiredPorts = ∅

theorem passed_iff :
    s.Passed ↔ s.hasUnknownPort = false ∧ (if s.requiredPorts.size > 0 then false else s.upToDate) = true := by
  by_cases he : s.requiredPorts = ∅
  case pos => simp [Passed, he]
  case neg =>
    have hs : s.requiredPorts.size ≠ 0 := by
      rwa [ne_eq, ← ExtTreeMap.length_toList, List.length_eq_zero_iff, ExtTreeMap.toList_eq_nil_iff]
    simp [Passed, he, Nat.pos_of_ne_zero hs]

def Matches (s : PortCheck) (ports : List Kube.ServicePort) : Prop :=
  s.hasUnknownPort = false ∧ s.upToDate = true ∧
  (ports.map portEntry).Perm (s.requiredPorts.toList.map requiredEntry)

theorem matches_nil : s.Matches [] ↔ s.Passed := by
  simp only [Matches, Passed, List.map_nil, List.nil_perm, List.map_eq_nil_iff, ExtTreeMap.toList_eq_nil_iff]

theorem matches_cons : s.Matches (p :: ports) ↔ (s.next p).Matches ports := by
  by_cases hm : portEntry p ∈ s.requiredPorts.toList.map requiredEntry
  case pos =>
    obtain ⟨hv, ht⟩ := mem_requiredEntries.mp hm
    have hc : s.requiredPorts.contains p.name = true := by
      rw [ExtTreeMap.contains_eq_isSome_getElem?, hv]
      rfl
    have he : portEntry p = requiredEntry (p.name, p.port) := by simp [portEntry, requiredEntry, ht]
    have hp := (toList_perm_cons_erase hv).map requiredEntry
    simp only [Matches, next, hc, hv, ht, List.map_cons, he, hp.congr_right, List.map_cons, List.perm_cons]
    simp
  case neg =>
    -- The port is unknown, or else it is wrong.
    have hn : (s.next p).hasUnknownPort ∨ (s.next p).upToDate = false := by
      rw [mem_requiredEntries] at hm
      cases hv : s.requiredPorts[p.name]?
      case none =>
        have hc : s.requiredPorts.contains p.name = false := by
          rw [ExtTreeMap.contains_eq_isSome_getElem?, hv]
          rfl
        exact .inl <| by simp [next, hc]
      case some v =>
        refine .inr <| if_pos ?_
        rw [hv, Option.getD_some]
        by_contra! hc
        exact hm ⟨hv.trans (by rw [hc.left]), hc.right.trans hc.left.symm⟩
    constructor
    case mp =>
      rintro ⟨_, _, hp⟩
      exact absurd (hp.mem_iff.mp List.mem_cons_self) hm
    case mpr =>
      rintro ⟨hu, ho, _⟩
      simp [hu, ho] at hn

theorem passed_foldl_next : (ports.foldl next s).Passed ↔ s.Matches ports := by
  induction ports generalizing s
  case nil => exact matches_nil.symm
  case cons p ports hi => exact hi.trans matches_cons.symm

end PortCheck

namespace ConnectivityServiceController

def listenerPorts (c : ConnectivityServiceController) : List (Bytes × Int) :=
  c.virtualNodes.toList.filterMap fun (n, listener) =>
    listener.map fun l => (n, (getListenerPort (some l)).toOption.getD 0)

structure UpToDate (c : ConnectivityServiceController) (svc : Kube.Service) : Prop where
  label : (svc.labels.getD ∅)[labelRole]? = some labelRoleValueConnectivity
  ports : (svc.ports.map portEntry).Perm (c.listenerPorts.map requiredEntry)

theorem nodup_listenerPorts : (c.listenerPorts.map Prod.fst).Nodup := by
  simp only [List.Nodup, listenerPorts, List.pairwise_map, List.pairwise_filterMap]
  refine c.virtualNodes.distinct_keys_toList.imp fun {e₁ e₂} hne p₁ h₁ p₂ h₂ he => ?_
  obtain ⟨l₁, _, rfl⟩ := Option.map_eq_some_iff.mp h₁
  obtain ⟨l₂, _, rfl⟩ := Option.map_eq_some_iff.mp h₂
  have he : e₁.fst = e₂.fst := he
  exact hne <| by rw [he]; exact Std.ReflCmp.compare_self

theorem getAllRequiredServicePorts_perm :
    (c.getAllRequiredServicePorts.map fun p => (p.name, p.port)).Perm c.listenerPorts := by
  have hs := List.mergeSort_perm
    (c.virtualNodes.toList.filterMap fun (n, listener) => listener.map (requiredPort n))
    (fun p q => p.name ≤ q.name)
  refine (hs.map _).trans <| .of_eq ?_
  rw [listenerPorts, List.map_filterMap]
  congr 1
  funext ⟨n, listener⟩
  cases listener <;> rfl

theorem portEntry_getAllRequiredServicePorts :
    (c.getAllRequiredServicePorts.map portEntry).Perm (c.listenerPorts.map requiredEntry) := by
  have he : ∀ p ∈ c.getAllRequiredServicePorts, portEntry p = requiredEntry (p.name, p.port) := by
    intro p hp
    rw [getAllRequiredServicePorts, List.mem_mergeSort, List.mem_filterMap] at hp
    obtain ⟨⟨n, listener⟩, _, hp⟩ := hp
    obtain ⟨l, _, rfl⟩ := Option.map_eq_some_iff.mp hp
    rfl
  rw [List.map_congr_left he]
  have hp := getAllRequiredServicePorts_perm (c := c) |>.map requiredEntry
  rwa [List.map_map] at hp

theorem requiredPorts_perm :
    (ExtTreeMap.ofList (c.getAllRequiredServicePorts.map fun p => (p.name, p.port))).toList.Perm
    c.listenerPorts := by
  have hp := c.getAllRequiredServicePorts_perm
  exact (toList_ofList_perm <| (hp.map Prod.fst).nodup_iff.mpr nodup_listenerPorts).trans hp

theorem not_label_iff {labels : Kube.Labels} :
    (labels.isEmpty ∨ labels[labelRole]?.getD [] ≠ labelRoleValueConnectivity) ↔
    labels[labelRole]? ≠ some labelRoleValueConnectivity := by
  have hne : labelRoleValueConnectivity ≠ [] := by decide
  cases hl : labels[labelRole]?
  case none => simp [hne.symm]
  case some v =>
    have he : labels.isEmpty = false := by
      by_contra he
      rw [Bool.not_eq_false, ExtTreeMap.isEmpty_iff] at he
      simp [he] at hl
    simp [he]

theorem checkServiceUpToDate_iff (h : svc.name = c.connectivityService) :
    c.checkServiceUpToDate svc c.getAllRequiredServicePorts = (false, true) ↔ c.UpToDate svc := by
  have hr := requiredPorts_perm (c := c) |>.map requiredEntry
  simp only [checkServiceUpToDate, h, ne_eq, not_true_eq_false, if_false, Prod.mk.injEq, ← PortCheck.passed_iff,
    PortCheck.passed_foldl_next, PortCheck.Matches, hr.congr_right, true_and]
  constructor
  case mp =>
    rintro ⟨hu, hp⟩
    split at hu
    case isTrue => cases hu
    case isFalse =>
      split at hu
      case isTrue => cases hu
      case isFalse hl => exact ⟨not_not.mp <| not_label_iff.not.mp hl, hp⟩
  case mpr =>
    rintro ⟨hl, hp⟩
    have hn := hp.trans portEntry_getAllRequiredServicePorts.symm |>.length_eq
    rw [List.length_map, List.length_map] at hn
    refine ⟨?_, hp⟩
    rw [if_neg (not_not.mpr hn), if_neg (not_label_iff.not.mpr <| not_not.mpr hl)]

@[simp]
theorem ports_newServiceForAllEdgeDevices :
    c.newServiceForAllEdgeDevices.ports = c.getAllRequiredServicePorts :=
  rfl

theorem upToDate_newServiceForAllEdgeDevices : c.UpToDate c.newServiceForAllEdgeDevices where
  label := by simp [newServiceForAllEdgeDevices]
  ports := portEntry_getAllRequiredServicePorts

theorem upToDate_clone {oldSvc : Kube.Service} : c.UpToDate (clone oldSvc c.newServiceForAllEdgeDevices) where
  label := by
    have hn := upToDate_newServiceForAllEdgeDevices (c := c) |>.label
    simp only [clone]
    cases oldSvc.labels
    case none => exact hn
    case some labels =>
      rw [Option.getD_some, ExtTreeMap.getElem?_union, hn, Option.some_or]
  ports := portEntry_getAllRequiredServicePorts

variable {name : Bytes} {a : Answers} {writes : List Write} {get : Option Bytes}

theorem createService_stored {new svc : Kube.StoredService name}
    (h : (createService a writes new).stored = some svc) : svc = new := by
  simp only [createService, createObject] at h
  split at h
  case isFalse => cases h
  case isTrue =>
    split at h <;> cases h
    rfl

theorem ensureConnectivityService_upToDate {stored : Option (Kube.StoredService c.connectivityService)}
    {svc : Kube.StoredService c.connectivityService} {e : Ensured (Kube.StoredService c.connectivityService)}
    (h : c.ensureConnectivityService get a stored = e) (he : e.err = none) (hs : e.stored = some svc) :
    c.UpToDate svc.service := by
  have hn : c.connectivityService ≠ [] := svc.nonempty
  simp only [ensureConnectivityService, dif_neg hn] at h
  split at h
  case h_1 =>
    subst h
    cases he
  case h_2 =>
    split at h
    case h_1 =>
      subst h
      rw [createService_stored hs]
      exact upToDate_newServiceForAllEdgeDevices
    case h_2 oldSvc =>
      split at h <;> rename_i hw
      case h_1 =>
        -- Nothing is written only if the check passes.
        subst h
        cases hs
        refine checkServiceUpToDate_iff svc.named |>.mp ?_
        split at hw
        case isTrue => cases hw
        case isFalse hu =>
          split at hw
          case isTrue => cases hw
          case isFalse ho => exact Prod.ext (by simpa using hu) (by simpa using ho)
      case h_2 =>
        split at h
        case h_1 =>
          subst h
          cases hs
          exact upToDate_clone
        case h_2 =>
          subst h
          cases he
        case h_3 =>
          split at h
          case h_1 | h_2 =>
            subst h
            rw [createService_stored hs]
            exact upToDate_newServiceForAllEdgeDevices
          case h_3 =>
            subst h
            cases he

theorem connectivityService_upToDate (c : ConnectivityServiceController) :
    (∀ svc : Kube.StoredService c.connectivityService,
      c.checkServiceUpToDate svc.service c.getAllRequiredServicePorts = (false, true) ↔ c.UpToDate svc.service) ∧
    ∀ (get : Option Bytes) (a : Answers) (stored : Option (Kube.StoredService c.connectivityService)),
      (c.ensureConnectivityService get a stored).err = none →
      ∀ svc, (c.ensureConnectivityService get a stored).stored = some svc → c.UpToDate svc.service :=
  ⟨fun svc => checkServiceUpToDate_iff svc.named,
   fun _ _ _ he _ hs => ensureConnectivityService_upToDate rfl he hs⟩

end ConnectivityServiceController
end Aranya.EdgeDevice
