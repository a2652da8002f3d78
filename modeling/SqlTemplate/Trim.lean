import SqlTemplate.Text

/-!
# Trim rules

A trim rule cleans up a rendered clause: it drops one unwanted start and one unwanted end, and
puts a lead and a trail around what is left, if anything is.
-/

namespace SqlTemplate

/-- A rule for the two ends of a clause. An empty lead or trail adds nothing. -/
structure TrimRule where
  lead : Text := []
  trail : Text := []
  /-- The starts to drop, the first that fits; the case of ASCII letters does not count. -/
  unwantedStarts : List Text := []
  /-- The ends to drop, as they are or without their outer blanks. -/
  unwantedEnds : List Text := []

namespace TrimRule

/-- A `WHERE` clause, without a connective at its start. -/
def whereClause : TrimRule where
  lead := "WHERE".toList
  unwantedStarts := ["AND ".toList, "OR ".toList, "AND\n".toList, "OR\n".toList, "AND\r".toList,
    "OR\r".toList, "AND\t".toList, "OR\t".toList]

/-- A `SET` clause, without a comma at either end. -/
def setClause : TrimRule where
  lead := "SET".toList
  unwantedStarts := [[',']]
  unwantedEnds := [[',']]

/-- The entries of a list `A|B|C`, as they are; empty ones count for nothing. -/
def entries (list : Text) : List Text := (Text.splitOn '|' list).filter (!·.isEmpty)

/-- A text without the given start, which is not empty. -/
def withoutStart? (text start : Text) : Option Text :=
  if start.isEmpty then none else Text.afterLead? start text

/-- A text without the given end, which is not empty. -/
def withoutEnd? (text ending : Text) : Option Text :=
  if ending.isEmpty then none else Text.beforeTail? ending text

/-- A text without the first of the unwanted starts that it has, and the blanks behind it. -/
def dropStart (rule : TrimRule) (text : Text) : Text :=
  match rule.unwantedStarts.findSome? (withoutStart? text) with
  | some rest => Text.trimStart rest
  | none => text

/-- A text without the first of the unwanted ends that it has, and the blanks before it. -/
def dropEnd (rule : TrimRule) (text : Text) : Text :=
  match rule.unwantedEnds.findSome? fun ending =>
      (withoutEnd? text ending).or (withoutEnd? text (Text.trim ending)) with
  | some rest => Text.trimEnd rest
  | none => text

/-- What the rule keeps of a clause. -/
def core (rule : TrimRule) (clause : Text) : Text :=
  if clause.blank then [] else rule.dropEnd (rule.dropStart clause.trim)

/-- The clause as the rule leaves it: nothing, or its core between lead and trail. -/
def apply (rule : TrimRule) (clause : Text) : Text :=
  let core := rule.core clause
  if core.isEmpty then []
  else
    (if rule.lead.isEmpty then [] else rule.lead ++ [' ']) ++ core ++
      (if rule.trail.isEmpty then [] else ' ' :: rule.trail)

end TrimRule

end SqlTemplate
