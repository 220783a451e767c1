/-!
# The octets of a text

Texts are ordered by their UTF-8 octets. The order is total: of two different texts one comes first
(`precedes_or_precedes`).
-/

namespace TextAdventure.Text

/-- The UTF-8 octets of a text. -/
def octets (s : String) : List UInt8 :=
  s.toByteArray.data.toList

theorem octets_injective {s t : String} (h : octets s = octets t) : s = t := by
  rw [← String.toByteArray_inj]
  exact ByteArray.ext (Array.toList_inj.1 h)

/-- Comes before in the order of octets. -/
def Precedes (s t : String) : Prop :=
  octets s < octets t

instance (s t : String) : Decidable (Precedes s t) :=
  inferInstanceAs (Decidable (octets s < octets t))

theorem not_precedes_self (s : String) : ¬Precedes s s :=
  List.lt_irrefl _

theorem Precedes.trans {s t u : String} (h₁ : Precedes s t) (h₂ : Precedes t u) : Precedes s u :=
  List.lt_trans h₁ h₂

theorem precedes_or_precedes {s t : String} (h : s ≠ t) : Precedes s t ∨ Precedes t s := by
  by_cases h₁ : Precedes s t
  · exact .inl h₁
  · by_cases h₂ : Precedes t s
    · exact .inr h₂
    · exact absurd (octets_injective (List.le_antisymm (List.not_lt.1 h₂) (List.not_lt.1 h₁))) h

end TextAdventure.Text
