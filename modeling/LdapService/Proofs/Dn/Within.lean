import LdapService.Handler.Directory
import LdapService.Proofs.Dn.NormalForm

/-!
Which names lie within a base. Whatever lies within a name that lies within the
base lies within the base, and no scope of a search reaches further than that.
-/

namespace LdapService

namespace Dn

theorem isWithin_iff {dn base : String} :
    isWithin dn base = true ↔
      base = "" ∨ dn = base ∨ (',' :: base.toList) <:+ dn.toList := by
  simp [isWithin, or_assoc]

theorem isWithin_trans {dn middle base : String} (first : isWithin dn middle = true)
    (second : isWithin middle base = true) : isWithin dn base = true := by
  rw [isWithin_iff] at first second ⊢
  rcases second with all | rfl | below
  · exact .inl all
  · exact first
  · have filled : middle ≠ "" := by
      rintro rfl
      have longer := below.length_le
      simp at longer
    rcases first with all | rfl | lower
    · exact absurd all filled
    · exact .inr (.inr below)
    · have inner : middle.toList <:+ dn.toList := (List.suffix_cons ',' _).trans lower
      exact .inr (.inr (below.trans inner))

theorem isWithin_of_parent {dn base : String} (h : parent dn = base) :
    isWithin dn base = true := by
  rw [isWithin_iff]
  unfold parent at h
  split at h
  · next front rest split =>
    have cut : (',' :: rest) <:+ dn.toList := by
      rw [(eq_of_splitFirst? split).1]
      exact List.suffix_append _ _
    subst h
    rw [String.toList_ofList]
    exact .inr (.inr cut)
  · exact .inl h.symm

end Dn

theorem DirectoryService.isWithin_of_inScope {dn base : String} {scope : Scope}
    (h : inScope dn base scope = true) : Dn.isWithin dn base = true := by
  cases scope with
  | base =>
    rw [inScope, beq_iff_eq] at h
    exact Dn.isWithin_iff.2 (.inr (.inl h))
  | oneLevel =>
    rw [inScope, beq_iff_eq] at h
    exact Dn.isWithin_of_parent h
  | subtree => exact h

end LdapService
