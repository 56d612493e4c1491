import PagedFilter.Vocabulary
import PagedFilter.Value.Basic

/-!
The shape of filters: fields and groups of filters, to any depth.
-/

namespace PagedFilter.Filter

/-- A filter whose entries are all as wanted, and whose `and` and `or` groups hold lists of such
filters. What `nor` holds is not looked into. -/
inductive Everywhere (wanted : String → Value → Prop) : Fields Value → Prop
  | nil : Everywhere wanted []
  | field {k v rest} (hk : Logical.ofKey? k = none) (hv : wanted k v)
      (hr : Everywhere wanted rest) : Everywhere wanted ((k, v) :: rest)
  | nor {k v rest} (hk : Logical.ofKey? k = some .nor) (hv : wanted k v)
      (hr : Everywhere wanted rest) : Everywhere wanted ((k, v) :: rest)
  | group {k g rest} {members : List (Fields Value)} (hk : Logical.ofKey? k = some g)
      (hg : g ≠ .nor) (hv : wanted k (.list (members.map .map)))
      (hm : ∀ m ∈ members, Everywhere wanted m) (hr : Everywhere wanted rest) :
      Everywhere wanted ((k, .list (members.map .map)) :: rest)

theorem Everywhere.mono {p q : String → Value → Prop} {fields : Fields Value}
    (h : Everywhere p fields) (hpq : ∀ k v, p k v → q k v) : Everywhere q fields := by
  induction h with
  | nil => exact .nil
  | field hk hv _ ih => exact .field hk (hpq _ _ hv) ih
  | nor hk hv _ ih => exact .nor hk (hpq _ _ hv) ih
  | group hk hg hv _ _ ihm ih => exact .group hk hg (hpq _ _ hv) ihm ih

end PagedFilter.Filter
