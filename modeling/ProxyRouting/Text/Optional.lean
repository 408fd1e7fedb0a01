namespace ProxyRouting.Text

/-- A text as it stands inside another one; an absent text is spelled out. -/
def shown (s : Option String) : String := s.getD "None"

/-- Whether a text is there and has a character. -/
def isFilled : Option String → Bool
  | some s => s != ""
  | none => false

end ProxyRouting.Text
