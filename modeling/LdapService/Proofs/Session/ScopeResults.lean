import LdapService.Proofs.Dn.Children
import LdapService.Proofs.Session.SearchResult

/-!
The scopes of a search side by side. One level brings children of the base and nothing
else, so it never brings the base itself, and the whole subtree brings both. The root is
the exception: its parent is taken to be the root again, so a search of one level below
the root brings the entry of the root too, if there is one that the filter is true of.
-/

namespace LdapService

/-- The results of a search under its three scopes divide the subtree as they should. -/
structure Directory.DividesByScope (directory : Directory) (request : SearchRequest) : Prop where
  children : ∀ entry ∈ directory.found { request with scope := .oneLevel },
    Dn.IsChild (Dn.normalize entry.dn) (Dn.normalize request.base)
  disjoint : (directory.found { request with scope := .oneLevel }).Disjoint
    (directory.found { request with scope := .base })
  oneLevel : directory.found { request with scope := .oneLevel } ⊆
    directory.found { request with scope := .subtree }
  base : directory.found { request with scope := .base } ⊆
    directory.found { request with scope := .subtree }

namespace Directory

variable {directory : Directory} {request : SearchRequest}

theorem mem_found_iff {entry : Entry} :
    entry ∈ directory.found request ↔ entry ∈ directory.entries ∧
      DirectoryService.inScope (Dn.normalize entry.dn) (Dn.normalize request.base) request.scope =
        true ∧
      request.filter.isTrueOf entry = true := by
  rw [found, List.mem_filter, DirectoryService.selects, Bool.and_eq_true]

theorem found_subset_subtree (scope : Scope) :
    directory.found { request with scope } ⊆ directory.found { request with scope := .subtree } := by
  intro entry mem
  obtain ⟨listed, inside, holds⟩ := mem_found_iff.1 mem
  exact mem_found_iff.2 ⟨listed, DirectoryService.isWithin_of_inScope inside, holds⟩

theorem dividesByScope_iff :
    directory.DividesByScope request ↔
      (∀ entry ∈ directory.found { request with scope := .oneLevel },
        Dn.IsChild (Dn.normalize entry.dn) (Dn.normalize request.base)) := by
  refine ⟨DividesByScope.children, fun children => ⟨children, ?_, found_subset_subtree _,
    found_subset_subtree _⟩⟩
  intro entry below same
  have named : Dn.normalize entry.dn = Dn.normalize request.base :=
    beq_iff_eq.1 (mem_found_iff.1 same).2.1
  have child := children entry below
  rw [named] at child
  exact Dn.not_isChild_self _ child

/-- An entry of the root that the search is for, when the root is the base. -/
def FindsRoot (directory : Directory) (request : SearchRequest) : Prop :=
  Dn.normalize request.base = "" ∧
    ∃ entry ∈ directory.entries, Dn.normalize entry.dn = "" ∧ request.filter.isTrueOf entry = true

theorem dividesByScope_iff_not_findsRoot :
    directory.DividesByScope request ↔ ¬directory.FindsRoot request := by
  rw [dividesByScope_iff]
  constructor
  · rintro children ⟨root, entry, listed, named, holds⟩
    have below : entry ∈ directory.found { request with scope := .oneLevel } := by
      refine mem_found_iff.2 ⟨listed, ?_, holds⟩
      rw [named, root]
      rfl
    have child := children entry below
    rw [named, root] at child
    exact Dn.not_isChild_self "" child
  · intro other entry mem
    obtain ⟨listed, inside, holds⟩ := mem_found_iff.1 mem
    rcases Dn.parent_eq_iff.1 (beq_iff_eq.1 inside) with child | ⟨named, root⟩
    · exact child
    · exact absurd ⟨root, entry, listed, named, holds⟩ other

end Directory

namespace DirectoryService

variable (service : DirectoryService) {directory : Directory}

/-- Under each scope a search without a size limit brings what that scope has, and what the
scopes have divides the subtree exactly if no entry of the root is found below the root. -/
theorem scopes_divide_iff (request : SearchRequest)
    (within : Dn.isWithin (Dn.normalize request.base) service.base = true)
    (present : directory.Has (Dn.normalize request.base))
    (evaluates : ∀ entry ∈ directory.entries,
      Dn.isWithin (Dn.normalize entry.dn) (Dn.normalize request.base) = true →
        ∃ truth, request.filter.evaluate .standard entry.get? = .ok truth) :
    (∀ scope, service.Yields directory { request with scope, sizeLimit := 0 }
      (directory.found { request with scope }) .success "") ∧
    (directory.DividesByScope request ↔ ¬directory.FindsRoot request) := by
  refine ⟨fun scope => ?_, Directory.dividesByScope_iff_not_findsRoot⟩
  have reached : ∀ entry ∈ directory.entries,
      inScope (Dn.normalize entry.dn) (Dn.normalize request.base) scope = true →
        ∃ truth, request.filter.evaluate .standard entry.get? = .ok truth :=
    fun entry listed inside => evaluates entry listed (isWithin_of_inScope inside)
  exact service.yields_found { request with scope, sizeLimit := 0 } within present reached
    (Nat.two_pow_pos 32)

theorem scopes_divide_branch :
    let directory := Directory.ofNames ["ou=people", "cn=Ann,ou=people", "cn=Car,cn=Ann,ou=people"]
      (by decide +kernel)
    let request : SearchRequest := { base := "OU=People", scope := .subtree, filter := .always }
    (∀ scope, Yields ⟨"", false⟩ directory { request with scope, sizeLimit := 0 }
      (directory.found { request with scope }) .success "") ∧ directory.DividesByScope request := by
  intro directory request
  have present : directory.Has (Dn.normalize request.base) :=
    ⟨{ dn := "ou=people" }, by decide +kernel, by decide +kernel⟩
  obtain ⟨yields, divides⟩ := scopes_divide_iff ⟨"", false⟩ request rfl present
    fun _ _ _ => ⟨.holds, rfl⟩
  have named : Dn.normalize request.base ≠ "" := by decide +kernel
  exact ⟨yields, divides.2 fun finds => named finds.1⟩

/-- One level below the root the root is found again. -/
theorem root_below_itself :
    let directory := Directory.ofNames ["", "ou=people"] (by decide +kernel)
    let request : SearchRequest := { base := "", scope := .oneLevel, filter := .always }
    Yields ⟨"", false⟩ directory request [{ dn := "" }, { dn := "ou=people" }] .success "" ∧
      Yields ⟨"", false⟩ directory { request with scope := .base } [{ dn := "" }] .success "" ∧
      ¬Dn.IsChild (Dn.normalize "") (Dn.normalize request.base) := by
  intro directory request
  have present : directory.Has (Dn.normalize request.base) :=
    ⟨{ dn := "" }, by decide +kernel, by decide +kernel⟩
  have below : directory.found request = [{ dn := "" }, { dn := "ou=people" }] := by
    decide +kernel
  have alone : directory.found { request with scope := .base } = [{ dn := "" }] := by
    decide +kernel
  have yields := yields_found ⟨"", false⟩ request rfl present (fun _ _ _ => ⟨.holds, rfl⟩)
    (Nat.two_pow_pos 32)
  have yields' := yields_found ⟨"", false⟩ { request with scope := .base } rfl present
    (fun _ _ _ => ⟨.holds, rfl⟩) (Nat.two_pow_pos 32)
  rw [below] at yields
  rw [alone] at yields'
  exact ⟨yields, yields', Dn.not_isChild_self _⟩

end DirectoryService

end LdapService
