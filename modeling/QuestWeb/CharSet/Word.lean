import QuestWeb.CharSet
import QuestWeb.Text.WordTable

/-!
The sets that patterns use most: word characters, decimal digits and white space, of all scripts and
of ASCII only.
-/

namespace QuestWeb.CharSet

def word : CharSet := ⟨Text.wordSpans⟩

def digit : CharSet := ⟨Text.digitSpans⟩

def blank : CharSet := ⟨[
  ⟨9, 13⟩, ⟨0x20, 0x20⟩, ⟨0x85, 0x85⟩, ⟨0xA0, 0xA0⟩, ⟨0x1680, 0x1680⟩, ⟨0x2000, 0x200A⟩,
  ⟨0x2028, 0x2029⟩, ⟨0x202F, 0x202F⟩, ⟨0x205F, 0x205F⟩, ⟨0x3000, 0x3000⟩]⟩

def asciiWord : CharSet := ⟨[⟨0x30, 0x39⟩, ⟨0x41, 0x5A⟩, ⟨0x5F, 0x5F⟩, ⟨0x61, 0x7A⟩]⟩

def asciiDigit : CharSet := span 0x30 0x39

def asciiBlank : CharSet := ⟨[⟨9, 13⟩, ⟨0x20, 0x20⟩]⟩

end QuestWeb.CharSet
