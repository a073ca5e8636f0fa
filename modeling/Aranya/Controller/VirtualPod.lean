import Aranya.Kube.Objects

namespace Aranya

structure PodOutcomes where
  updates : Nat → Option Kube.ApiError
  lookups : Nat → Option Kube.Pod

inductive VirtualPodReturn
  | updated (po : Kube.Pod)
  | missing
  deriving DecidableEq, Repr

namespace PodOutcomes

-- Here `i` calls have failed. The pod is looked up again, and sent as it is.
def retryVirtualPod (o : PodOutcomes) : Nat → Nat → Option VirtualPodReturn
  | 0, _ => none
  | fuel + 1, i =>
    match o.lookups (i - 1) with
    | none => some .missing
    | some po =>
      match o.updates i with
      | none => some (.updated po)
      | some .notFound => some .missing
      | some (.other _) => retryVirtualPod o fuel (i + 1)

-- The result is `none` as long as the loop has not ended.
def updateVirtualPodStatus (o : PodOutcomes) (fuel : Nat) (po : Kube.Pod) : Option VirtualPodReturn :=
  match o.updates 0 with
  | none => some (.updated po)
  | some _ => o.retryVirtualPod fuel 1

end PodOutcomes
end Aranya
