import LdapService.Octets

/-!
Text as it travels. Only well-formed UTF-8 is text: no overlong forms, no
surrogates, nothing past U+10FFFF. Reading inverts writing.
-/

namespace LdapService.Text

def utf8 (text : String) : Octets :=
  text.toByteArray.data.toList

def ofUtf8? (octets : Octets) : Option String :=
  String.fromUTF8? ⟨octets.toArray⟩

theorem ofUtf8?_utf8 (text : String) : ofUtf8? (utf8 text) = some text := by
  have same : (⟨text.toByteArray.data.toList.toArray⟩ : ByteArray) = text.toByteArray := by
    simp
  simp only [ofUtf8?, utf8, String.fromUTF8?, same]
  rw [dif_pos text.isValidUTF8]
  rfl

theorem eq_utf8_of_ofUtf8? {octets : Octets} {text : String}
    (h : ofUtf8? octets = some text) : octets = utf8 text := by
  simp only [ofUtf8?, String.fromUTF8?] at h
  split at h
  · obtain rfl := Option.some.inj h
    simp [utf8, String.fromUTF8]
  · cases h

theorem ofUtf8?_eq_some_iff {octets : Octets} {text : String} :
    ofUtf8? octets = some text ↔ octets = utf8 text :=
  ⟨eq_utf8_of_ofUtf8?, fun h => h ▸ ofUtf8?_utf8 text⟩

end LdapService.Text
