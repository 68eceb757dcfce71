import SdbDebugger.Library.Overlay
import SdbDebugger.Stoppoints

/-! The breakpoint sites of a process as a list with distinct addresses, and the
set of addresses at which its enabled software sites put a trap byte. -/

namespace SdbDebugger
open StoppointCollection KeyedList

/-- An enabled software site. -/
def BreakpointSite.armed (site : BreakpointSite) : Bool := site.isEnabled && !site.isHardware

def trapAddresses (sites : List BreakpointSite) : Set VirtAddr :=
  {a | ∃ site ∈ sites, site.armed = true ∧ site.address = a}

/-- No two stoppoints of a collection share an address. -/
abbrev DistinctAddresses {α : Type} [Stoppoint α] (points : List α) : Prop :=
  DistinctKeys Stoppoint.address points

section Traps

variable {sites : List BreakpointSite} {i : Nat} {site : BreakpointSite}
  {f : BreakpointSite → BreakpointSite}

theorem mem_trapAddresses {a : VirtAddr} :
    a ∈ trapAddresses sites ↔ ∃ site ∈ sites, site.armed = true ∧ site.address = a := Iff.rfl

/-- Position `i` becomes armed: its address joins the traps. -/
theorem trapAddresses_modify_armed (at_i : sites[i]? = some site)
    (keep : (f site).address = site.address) (arms : (f site).armed = true) :
    trapAddresses (sites.modify i f) = insert site.address (trapAddresses sites) := by
  ext a
  rw [Set.mem_insert_iff, mem_trapAddresses, mem_trapAddresses]
  constructor
  · rintro ⟨q, member, armed, rfl⟩
    rcases mem_modify.1 member with ⟨p, hp, rfl⟩ | ⟨j, _, hq⟩
    · rw [at_i, Option.some.injEq] at hp
      subst hp
      exact .inl keep
    · exact .inr ⟨q, List.mem_of_getElem? hq, armed, rfl⟩
  · rintro (rfl | ⟨q, member, armed, rfl⟩)
    · exact ⟨f site, mem_modify.2 (.inl ⟨site, at_i, rfl⟩), arms, keep⟩
    · obtain ⟨j, hq⟩ := List.mem_iff_getElem?.1 member
      by_cases here : j = i
      · rw [here, at_i, Option.some.injEq] at hq
        subst hq
        exact ⟨f site, mem_modify.2 (.inl ⟨site, at_i, rfl⟩), arms, keep⟩
      · exact ⟨q, mem_modify.2 (.inr ⟨j, here, hq⟩), armed, rfl⟩

/-- Position `i` is not armed afterwards: its address leaves the traps. -/
theorem trapAddresses_modify_disarmed (distinct : DistinctAddresses sites)
    (at_i : sites[i]? = some site) (disarms : (f site).armed = false) :
    trapAddresses (sites.modify i f) = trapAddresses sites \ {site.address} := by
  ext a
  rw [Set.mem_sdiff, Set.mem_singleton_iff, mem_trapAddresses, mem_trapAddresses]
  constructor
  · rintro ⟨q, member, armed, rfl⟩
    rcases mem_modify.1 member with ⟨p, hp, rfl⟩ | ⟨j, other, hq⟩
    · rw [at_i, Option.some.injEq] at hp
      subst hp
      rw [disarms] at armed
      contradiction
    · exact ⟨⟨q, List.mem_of_getElem? hq, armed, rfl⟩,
        fun same => other (distinct.position_unique hq at_i same)⟩
  · rintro ⟨⟨q, member, armed, rfl⟩, elsewhere⟩
    obtain ⟨j, hq⟩ := List.mem_iff_getElem?.1 member
    refine ⟨q, mem_modify.2 (.inr ⟨j, fun here => ?_, hq⟩), armed, rfl⟩
    rw [here, at_i, Option.some.injEq] at hq
    exact elsewhere (by rw [hq])

theorem address_not_trapped (distinct : DistinctAddresses sites) (at_i : sites[i]? = some site)
    (idle : site.armed = false) : site.address ∉ trapAddresses sites := by
  rintro ⟨q, member, armed, same⟩
  obtain ⟨j, hq⟩ := List.mem_iff_getElem?.1 member
  have here := distinct.position_unique hq at_i same
  rw [here, at_i, Option.some.injEq] at hq
  rw [← hq, idle] at armed
  contradiction

/-- An update that leaves an idle site idle moves no trap. -/
theorem trapAddresses_modify_idle (distinct : DistinctAddresses sites)
    (at_i : sites[i]? = some site) (idle : site.armed = false) (stays : (f site).armed = false) :
    trapAddresses (sites.modify i f) = trapAddresses sites := by
  rw [trapAddresses_modify_disarmed distinct at_i stays,
    Set.sdiff_singleton_eq_self (address_not_trapped distinct at_i idle)]

theorem trapAddresses_append_idle (idle : site.armed = false) :
    trapAddresses (sites ++ [site]) = trapAddresses sites := by
  ext a
  simp only [mem_trapAddresses, List.mem_append, List.mem_singleton]
  constructor
  · rintro ⟨q, member | rfl, armed, rfl⟩
    · exact ⟨q, member, armed, rfl⟩
    · rw [idle] at armed
      contradiction
  · rintro ⟨q, member, armed, rfl⟩
    exact ⟨q, .inl member, armed, rfl⟩

theorem trapAddresses_eraseIdx (distinct : DistinctAddresses sites) (at_i : sites[i]? = some site) :
    trapAddresses (sites.eraseIdx i) = trapAddresses sites \ {site.address} := by
  ext a
  rw [Set.mem_sdiff, Set.mem_singleton_iff, mem_trapAddresses, mem_trapAddresses]
  constructor
  · rintro ⟨q, member, armed, rfl⟩
    obtain ⟨j, other, hq⟩ := List.mem_eraseIdx_iff_getElem?.1 member
    exact ⟨⟨q, List.mem_of_getElem? hq, armed, rfl⟩,
      fun same => other (distinct.position_unique hq at_i same)⟩
  · rintro ⟨⟨q, member, armed, rfl⟩, elsewhere⟩
    obtain ⟨j, hq⟩ := List.mem_iff_getElem?.1 member
    refine ⟨q, List.mem_eraseIdx_iff_getElem?.2 ⟨j, fun here => ?_, hq⟩, armed, rfl⟩
    rw [here, at_i, Option.some.injEq] at hq
    exact elsewhere (by rw [hq])

end Traps

end SdbDebugger
