namespace ProxyRouting

/-- A limit of the settings that a value breaks. -/
inductive SettingsRule where
  | indentIsBlank
  | nameLength
  | scriptThreshold
  | scriptSize
deriving DecidableEq, Repr

/-- Why an operation has no result. -/
inductive Fault where
  /-- Stored data holds something else where an object is read. -/
  | notAnObject
  /-- Stored data holds something else where a text is read. -/
  | notAText
  /-- Stored data holds something else where a list is read. -/
  | notAList
  /-- Stored data holds something else where a number is read. -/
  | notANumber
  /-- A text or a number that is no integer is read as one. -/
  | notAnInteger
  /-- An infinite number is read as an integer. -/
  | infiniteNumber
  /-- A text is no well-formed document. -/
  | malformedDocument
  /-- A text is absent where its characters are needed. -/
  | missingText
  /-- A pattern is absent where it is matched. -/
  | missingPattern
  /-- A profile without a rule set is used as one. -/
  | missingRuleSet
  /-- A position lies past the end of the store. -/
  | missingEntry
  /-- A repetition in a regular expression counts too far. -/
  | repetitionTooLarge
  /-- A regular expression sets flags that exclude each other. -/
  | incompatibleFlags
  /-- A finding names no known category. -/
  | unknownCategory
  /-- A finding names no known severity. -/
  | unknownSeverity
  /-- The settings break one of their rules. -/
  | badSettings (rule : SettingsRule)
  /-- A journal is given no room. -/
  | journalWithoutRoom
  /-- The listener of a journal refuses a finding. -/
  | listenerRefused
deriving DecidableEq, Repr

def SettingsRule.message : SettingsRule → String
  | .indentIsBlank => "Indent must be a non-empty run of spaces or tabs"
  | .nameLength => "Max name length must be between 1 and 500"
  | .scriptThreshold => "Large script threshold must be positive"
  | .scriptSize => "Max PAC size cannot be below the large script threshold"

/-- The wording of a fault, for the faults that have one. -/
def Fault.message? : Fault → Option String
  | .badSettings rule => some rule.message
  | .journalWithoutRoom => some "max_history_size must be at least 1"
  | _ => none

end ProxyRouting
