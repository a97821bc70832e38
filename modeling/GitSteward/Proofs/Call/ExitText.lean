-- What is told of a process that ended badly: its status and, if the caller wanted the error
-- output, what was kept of it. A text may have been cut inside a character, and is then told from
-- the next character on.
import GitSteward.Proofs.Call.Delivery
import GitSteward.Proofs.Call.Verdict
import GitSteward.Proofs.Text.Lossy

namespace GitSteward

variable {status : WaitStatus} {field : String}

/-- The message tells the status alone when there is no more to tell. -/
theorem message_exit :
    ((Fault.exit status field).message = status.text ↔ field = "") ∧
      (field ≠ "" → (Fault.exit status field).message = status.text ++ ": " ++ field) := by
  unfold Fault.message
  by_cases h : field = ""
  · simp [h]
  · simp [h, String.append_assoc]

namespace Call

variable {c : Call} {moves : List Move} {r : Request} {launch : Launch} {limit capacity : Nat}

/-- What is told of an error text of which so many bytes may be kept. -/
structure TellsText (limit : Nat) (text field : String) : Prop where
  /-- whole characters, behind a replacement for each byte of one that was cut, without the white
  space at their end -/
  cut : ∃ bytes kept told blanks, Text.Cut limit text bytes kept ∧
    field = Text.trimEnd (String.ofList (List.replicate bytes Text.replacement ++ kept)) ∧
    field.toList = List.replicate bytes Text.replacement ++ told ∧
    kept = told ++ blanks ∧ (∀ c ∈ blanks, Text.isBlank c) ∧ ∀ c ∈ told.getLast?, ¬Text.isBlank c
  /-- a text that fits is told as it is, but for white space at its end -/
  whole : (Text.utf8 text).length ≤ limit → field = Text.trimEnd text

theorem tellsText_stderrText (limit : Nat) (text : String) :
    TellsText limit text (Fault.stderrText (lastBytes limit (Text.utf8 text))) := by
  obtain ⟨bytes, kept, hcut, hlossy⟩ := Text.lossy_lastBytes limit text
  obtain ⟨blanks, hkept, hblanks, hlast⟩ := Text.toList_trimEnd (String.ofList kept)
  rw [String.toList_ofList] at hkept
  rw [Fault.stderrText, hlossy]
  refine ⟨⟨bytes, kept, _, blanks, hcut, rfl, ?_, hkept, hblanks, hlast⟩, fun hshort => ?_⟩
  · rw [Text.trimEnd_replacements, String.toList_ofList]
  · obtain ⟨rfl, rfl⟩ := hcut.whole hshort
    simp

/-- What holds of the error of a call whose process ended badly. -/
structure ExitText (r : Request) (limit : Nat) (moves : List Move) (c : Call) : Prop where
  /-- a process that ended badly makes such an error -/
  fails : c.cancelled = false → ∀ status, c.child = .reaped status → status.word ≠ 0 →
    ∃ field, c.outcome? = some (.error (.exit status field))
  /-- the message is the status alone, or the status with the text behind it -/
  message : ∀ status field, c.outcome? = some (.error (.exit status field)) →
    ((Fault.exit status field).message = status.text ↔ field = "") ∧
      (field ≠ "" → (Fault.exit status field).message = status.text ++ ": " ++ field)
  /-- without a sink nothing is told of the error output, and neither if nothing may be kept -/
  bare : r.stderr = none ∨ limit = 0 → ∀ status field,
    c.outcome? = some (.error (.exit status field)) →
      field = "" ∧ (Fault.exit status field).message = status.text
  /-- all of the error output has come through the pipe, if this could be read -/
  arrived : r.stderr.isSome → Line.pipeErrors (lineMoves .stderr moves) = [] →
    ∀ status field, c.outcome? = some (.error (.exit status field)) →
      Line.arrived (lineMoves .stderr moves) = written .stderr moves
  /-- and if it is a text, in whatever pieces, then this is told -/
  text : r.stderr.isSome → ∀ status field, c.outcome? = some (.error (.exit status field)) →
    ∀ text, Line.arrived (lineMoves .stderr moves) = Text.utf8 text → TellsText limit text field

/-- The error of a process that ended badly tells the status, and as much of the error text as may
be kept. -/
theorem the_error_text_is_told (ran : (ofRequest r launch limit capacity).run moves = some c) :
    ExitText r limit moves c := by
  obtain ⟨ho, terms⟩ := orderly_of_run ran
  have hsup : c.supplies .stderr = r.stderr.isSome := congrFun terms.supplies .stderr
  have hlimit : c.captureLimit = limit := congrFun terms.keeps .stderr
  have told {status : WaitStatus} {field : String}
      (h : c.outcome? = some (.error (.exit status field))) :
      c.hasStarted ∧ c.copiersDone ∧ field = Fault.stderrText (c.errorTail moves) := by
    obtain ⟨status', hreaped, hdone, hexit⟩ := exited_of_verdict ho h rfl
    have hstarted := started_of_reaped hreaped
    refine ⟨hstarted, hdone, ?_⟩
    rw [← captured_of_run ran hstarted]
    unfold Outcome.ofExit at hexit
    split at hexit <;> cases hexit
    rfl
  refine ⟨?_, fun _ _ _ => message_exit, ?_, ?_, ?_⟩
  · intro calm status hreaped hbad
    rw [outcome_of_reaped ran calm hreaped, if_neg hbad]
    exact ⟨_, rfl⟩
  · intro hnone status field h
    have hempty : c.errorTail moves = [] := by
      unfold errorTail
      rw [hsup, hlimit]
      rcases hnone with hnone | hnone
      · simp [hnone]
      · simp [hnone, lastBytes]
    have hfield : field = "" := by
      rw [(told h).2.2, hempty, Fault.stderrText, Text.lossy, Text.lossyChars_nil]
      rfl
    exact ⟨hfield, message_exit.1.mpr hfield⟩
  · intro hwanted hread status field h
    obtain ⟨hstarted, hdone, -⟩ := told h
    have hline := ho.lines .stderr (by decide)
    rw [hsup, hwanted, hstarted] at hline
    obtain ⟨l, hl⟩ := Option.isSome_iff_exists.mp hline
    obtain ⟨got, books⟩ := books_of_line ran hl
    rw [← books.got_eq, books.whole (copiersDone_iff.mp hdone .stderr l hl) hread]
    rfl
  · intro hwanted status field h text htext
    have htail : c.errorTail moves = lastBytes limit (Text.utf8 text) := by
      rw [errorTail, hsup, hwanted, hlimit, if_pos rfl, htext]
    rw [(told h).2.2, htail]
    exact tellsText_stderrText limit text

/-- Six bytes are written, in pieces that divide both characters. Four may be kept. -/
def cutCourse : List Move :=
  [.enter, .spawn, .childWrites .stderr [0xE2, 0x82], .copierReads .stderr 1,
    .copier .stderr (.sink (.takes 1)), .childWrites .stderr [0xAC, 0xE2], .copierReads .stderr 3,
    .copier .stderr (.sink (.takes 3)), .childWrites .stderr [0x82, 0xAC], .copierReads .stderr 2,
    .copier .stderr (.sink (.takes 2)), .childCloses .stderr, .copier .stderr .pipeEnds,
    .copier .stderr .flushed, .childCloses .stdout, .copier .stdout .pipeEnds,
    .copier .stdout .flushed, .childEnds (.exited 3), .poll]

theorem a_text_is_told_from_the_next_character_on :
    ∃ c, smallCall.run cutCourse = some c ∧
      c.outcome? = some (.error (.exit (.exited 3) "\uFFFD€")) ∧
      TellsText 4 "€€" "\uFFFD€" ∧
      (Fault.exit (.exited 3) "\uFFFD€").message = "exit status: 3: \uFFFD€" := by
  have hchars : Text.lossyChars ([0xAC] ++ Text.spell ['€']) = ['\uFFFD', '€'] := by
    rw [Text.lossyChars_stranded (List.forall_mem_singleton.mpr rfl), Text.lossyChars_spell]
    rfl
  have hfield : Fault.stderrText [0xAC, 0xE2, 0x82, 0xAC] = "\uFFFD€" := by
    have hbytes : ([0xAC, 0xE2, 0x82, 0xAC] : Bytes) = [0xAC] ++ Text.spell ['€'] := by rfl
    rw [Fault.stderrText, Text.lossy, hbytes, hchars]
    rfl
  have hend : (smallCall.run cutCourse).map (·.outcome?) = some (some (.error
      (.exit (.exited 3) (Fault.stderrText [0xAC, 0xE2, 0x82, 0xAC])))) := by rfl
  rw [hfield] at hend
  obtain ⟨c, ran, hout⟩ := Option.map_eq_some_iff.mp hend
  have hread : Line.arrived (lineMoves .stderr cutCourse) = Text.utf8 "€€" := by rfl
  have law := the_error_text_is_told ran
  exact ⟨c, ran, hout, law.text rfl _ _ hout _ hread, by rfl⟩

end Call

end GitSteward
