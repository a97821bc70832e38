-- What a request shows of itself can be read back from its text, on one line or on several: the
-- directory, the arguments, the names of its variables, and which streams and hook it has. Nothing
-- else has any part in the text, the values of the variables least of all.
import GitSteward.Proofs.Text.Quoted
import GitSteward.Request.Description

namespace GitSteward

open Text

namespace RequestSummary

variable {s s' : RequestSummary}

/-! ## Flags and lists -/

theorem selfDelimiting_flagText : SelfDelimiting fun b => (flagText b).toList := by
  intro b b' rest rest' same
  cases b <;> cases b' <;> simp_all [flagText]

/-- A further text in brackets on one line. -/
def inlineItem (text : String) : String := ", " ++ quoted text

/-- A text in brackets on a line of its own. -/
def blockItem (text : String) : String := "        " ++ quoted text ++ ",\n"

theorem toList_inlineItem (text : String) :
    (inlineItem text).toList = ", ".toList ++ (quoted text).toList := by
  rw [inlineItem, String.toList_append]

theorem toList_blockItem (text : String) :
    (blockItem text).toList = "        ".toList ++ ((quoted text).toList ++ ",\n".toList) := by
  rw [blockItem, String.toList_append, String.toList_append, List.append_assoc]

theorem selfDelimiting_inlineItem : SelfDelimiting fun text => (inlineItem text).toList := by
  simpa only [toList_inlineItem] using selfDelimiting_quoted.preceded ", ".toList

theorem selfDelimiting_blockItem : SelfDelimiting fun text => (blockItem text).toList := by
  simpa only [toList_blockItem] using
    (selfDelimiting_quoted.followed ",\n".toList).preceded "        ".toList

theorem intercalate_quoted (text : String) (texts : List String) :
    ", ".intercalate ((text :: texts).map quoted) =
      quoted text ++ String.join (texts.map inlineItem) := by
  induction texts generalizing text with
  | nil => simp
  | cons next texts ih =>
    rw [List.map_cons, List.map_cons, String.intercalate_cons_cons, ← List.map_cons, ih,
      List.map_cons, String.join_cons, inlineItem, String.append_assoc, String.append_assoc]

theorem toList_inlineList_nil : (inlineList []).toList = ['[', ']'] := by simp [inlineList]

theorem toList_inlineList_cons (text : String) (texts : List String) :
    (inlineList (text :: texts)).toList = "[".toList ++
      ((quoted text).toList ++ (texts.flatMap (fun t => (inlineItem t).toList) ++ "]".toList)) := by
  simp only [inlineList, intercalate_quoted, String.toList_append, String.toList_join,
    List.flatMap_map, List.append_assoc]

theorem toList_blockList_nil : (blockList []).toList = ['[', ']'] := by simp [blockList]

theorem toList_blockList_cons (text : String) (texts : List String) :
    (blockList (text :: texts)).toList = "[\n".toList ++
      ((text :: texts).flatMap (fun t => (blockItem t).toList) ++ "    ]".toList) := by
  have join : blockList (text :: texts) =
      "[\n" ++ String.join ((text :: texts).map blockItem) ++ "    ]" := rfl
  rw [join, String.toList_append, String.toList_append, String.toList_join, List.flatMap_map,
    List.append_assoc]

theorem selfDelimiting_inlineList : SelfDelimiting fun texts => (inlineList texts).toList := by
  -- a further text begins with a comma, and the end of the list does not
  have items := selfDelimiting_inlineItem.all "]".toList fun text rest rest' => by
    simp [toList_inlineItem]
  refine .ofCons (fun text text' texts texts' rest rest' same => ?_) fun text texts rest rest' => ?_
  · simp only [toList_inlineList_cons, List.append_assoc, List.append_cancel_left_eq] at same
    obtain ⟨htext, hmore⟩ := selfDelimiting_quoted text text' _ _ same
    obtain ⟨htexts, hrest⟩ := items texts texts' rest rest'
      (by simpa only [List.append_assoc] using hmore)
    exact ⟨by rw [htext, htexts], hrest⟩
  · simp [toList_inlineList_nil, toList_inlineList_cons, toList_quoted]

theorem selfDelimiting_blockList : SelfDelimiting fun texts => (blockList texts).toList := by
  -- the line of a text is set in further than the end of the list
  have items := selfDelimiting_blockItem.all "    ]".toList fun text rest rest' => by
    simp [toList_blockItem]
  refine .ofCons (fun text text' texts texts' rest rest' same => ?_) fun text texts rest rest' => ?_
  · simp only [toList_blockList_cons] at same
    exact items.preceded "[\n".toList _ _ rest rest' same
  · simp [toList_blockList_nil, toList_blockList_cons]

/-! ## The two texts -/

theorem inlineText_inj : s.inlineText = s'.inlineText ↔ s = s' := by
  refine ⟨fun same => ?_, congrArg inlineText⟩
  cases s
  cases s'
  unfold inlineText at same
  rw [← String.toList_inj] at same
  -- one field after the other is read from what is left
  simp only [String.toList_append, List.append_assoc, List.append_cancel_left_eq,
    selfDelimiting_quoted.append_inj, selfDelimiting_inlineList.append_inj,
    selfDelimiting_flagText.append_inj] at same
  obtain ⟨rfl, rfl, rfl, rfl, rfl, rfl, rfl, -⟩ := same
  rfl

theorem blockText_inj : s.blockText = s'.blockText ↔ s = s' := by
  refine ⟨fun same => ?_, congrArg blockText⟩
  cases s
  cases s'
  unfold blockText at same
  rw [← String.toList_inj] at same
  simp only [String.toList_append, List.append_assoc, List.append_cancel_left_eq,
    selfDelimiting_quoted.append_inj, selfDelimiting_blockList.append_inj,
    selfDelimiting_flagText.append_inj] at same
  obtain ⟨rfl, rfl, rfl, rfl, rfl, rfl, rfl, -⟩ := same
  rfl

end RequestSummary

namespace Request

/-! ## The law -/

/-- Requests with the same public part: variables go by their names, in the order in which they
were added, and streams and hooks by being there. -/
structure ShowsAs (a b : Request) : Prop where
  dir : a.dir = b.dir
  args : a.args = b.args
  names : a.env.map (·.1) = b.env.map (·.1)
  stdin : a.stdin.isSome = b.stdin.isSome
  stdout : a.stdout.isSome = b.stdout.isSome
  stderr : a.stderr.isSome = b.stderr.isSome
  hook : a.hook.isSome = b.hook.isSome

theorem summary_eq_iff {a b : Request} : a.summary = b.summary ↔ a.ShowsAs b := by
  simp only [summary, RequestSummary.mk.injEq]
  constructor
  · rintro ⟨dir, args, names, stdin, stdout, stderr, hook⟩
    exact ⟨dir, args, names, stdin, stdout, stderr, hook⟩
  · intro h
    exact ⟨h.dir, h.args, h.names, h.stdin, h.stdout, h.stderr, h.hook⟩

/-- The values of variables are no part of a summary. -/
theorem summary_withEnv (r : Request) {env : Assignments}
    (names : env.map (·.1) = r.env.map (·.1)) : { r with env }.summary = r.summary :=
  summary_eq_iff.mpr ⟨rfl, rfl, names, rfl, rfl, rfl, rfl⟩

/-- What the texts of two requests tell about them. -/
structure DescriptionLaw (a b : Request) : Prop where
  inline : a.summary.inlineText = b.summary.inlineText ↔ a.ShowsAs b
  block : a.summary.blockText = b.summary.blockText ↔ a.ShowsAs b
  /-- whatever the values of the variables are, the texts are the same -/
  inlineValues : ∀ env, env.map (·.1) = a.env.map (·.1) →
    { a with env }.summary.inlineText = a.summary.inlineText
  blockValues : ∀ env, env.map (·.1) = a.env.map (·.1) →
    { a with env }.summary.blockText = a.summary.blockText

/-- The text of a request tells its public part and nothing else, and no request has the text of
another one, whatever its directory, arguments and names are. -/
theorem descriptions_tell_the_public_part (a b : Request) : DescriptionLaw a b where
  inline := RequestSummary.inlineText_inj.trans summary_eq_iff
  block := RequestSummary.blockText_inj.trans summary_eq_iff
  inlineValues _ names := congrArg RequestSummary.inlineText (a.summary_withEnv names)
  blockValues _ names := congrArg RequestSummary.blockText (a.summary_withEnv names)

/-- An argument that looks like the end of one and the beginning of another. -/
example : ({ dir := "/r", args := ["a\", \"b"], env := [("T", "x")] } : Request).summary.inlineText =
    "ServiceCommand \x7b dir: \"/r\", args: [\"a\\\", \\\"b\"], env_keys: [\"T\"], " ++
      "stdin: false, stdout: false, stderr: false, pre_start: false \x7d" := by rfl

end Request

end GitSteward
