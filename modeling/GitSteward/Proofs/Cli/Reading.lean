-- What a command line and the configuration that it names may set. Every assignment that a command
-- line asks for was made by one of its texts, so its name can be that of a variable. A
-- configuration that the program goes on with has passed its check.
import GitSteward.Cli
import GitSteward.Proofs.Environment.Assignment

namespace GitSteward

variable {l : Assignments} {a : String × String} {s : String}

theorem ok_of_bind {ε α β : Type} {x : Except ε α} {f : α → Except ε β} {b : β}
    (h : (x >>= f) = .ok b) : ∃ a, x = .ok a ∧ f a = .ok b := by
  cases x with
  | error e => cases h
  | ok a => exact ⟨a, rfl, h⟩

/-- Assignments that texts make, each by itself. -/
def FromTexts (l : Assignments) : Prop := ∃ texts : List String, texts.map assignment? = l.map some

theorem fromTexts_nil : FromTexts [] := ⟨[], rfl⟩

theorem FromTexts.append (h : FromTexts l) (hs : assignment? s = some a) :
    FromTexts (l ++ [a]) := by
  obtain ⟨texts, same⟩ := h
  exact ⟨texts ++ [s], by simp [same, hs]⟩

theorem FromTexts.goodKey (h : FromTexts l) (ha : a ∈ l) : GoodKey a.1 := by
  obtain ⟨texts, same⟩ := h
  have hmem : some a ∈ texts.map assignment? := same ▸ List.mem_map_of_mem ha
  obtain ⟨s, _, hs⟩ := List.mem_map.mp hmem
  exact (assignment?_eq_some_iff.mp hs).2

namespace Cli

variable {r r' : Reading} {o : Opt} {value w : String} {text : List Char} {words : List String}

/-! ## Reading -/

namespace Reading

theorem env_of_setOption (h : FromTexts r.env) (hr : r.setOption o value = .ok r') :
    FromTexts r'.env := by
  unfold setOption at hr
  cases o with
  | config =>
    dsimp only at hr
    split at hr
    · cases hr
    · split at hr
      · cases hr
      · cases hr
        exact h
  | env =>
    dsimp only at hr
    split at hr
    · rename_i hs
      cases hr
      exact h.append hs
    · cases hr
  | timeout =>
    dsimp only at hr
    split at hr
    · cases hr
    · split at hr
      · cases hr
        exact h
      · cases hr

theorem env_of_settle (h : FromTexts r.env) (hr : r.settle = .ok r') : FromTexts r'.env := by
  unfold settle at hr
  dsimp only at hr
  split at hr
  · cases hr
    exact h
  · cases hr
  · exact env_of_setOption (by exact h) hr
  · cases hr
    exact h
  · split at hr
    · cases hr
    · cases hr
      exact h
  · cases hr
    exact h

theorem env_of_option {attached : Option String} (h : FromTexts r.env)
    (hr : r.option o attached = .ok r') : FromTexts r'.env := by
  obtain ⟨settled, hsettled, hr⟩ := ok_of_bind hr
  replace h := env_of_settle h hsettled
  cases attached with
  | some value => exact env_of_setOption h hr
  | none =>
    cases hr
    exact h

/-- Help is told instead of going on. -/
theorem help_ne_ok : r.help ≠ .ok r' := by
  intro hr
  obtain ⟨_, _, hr⟩ := ok_of_bind hr
  cases hr

theorem env_of_argument (h : FromTexts r.env) (hr : r.argument value = .ok r') :
    FromTexts r'.env := by
  unfold argument at hr
  split at hr
  · obtain ⟨settled, hsettled, hr⟩ := ok_of_bind hr
    have kept := env_of_settle h hsettled
    cases hr
    exact kept
  · obtain ⟨settled, hsettled, hr⟩ := ok_of_bind hr
    have kept := env_of_settle h hsettled
    cases hr
    exact kept
  · cases hr

theorem env_of_longOption (h : FromTexts r.env) (hr : r.longOption text = .ok r') :
    FromTexts r'.env := by
  unfold longOption at hr
  dsimp only at hr
  split at hr
  · split at hr
    · exact absurd hr help_ne_ok
    · cases hr
  · split at hr
    · exact env_of_option h hr
    · cases hr

theorem env_of_shortOption (h : FromTexts r.env) (hr : r.shortOption text = .ok r') :
    FromTexts r'.env := by
  unfold shortOption at hr
  split at hr
  · exact env_of_argument h hr
  · split at hr
    · exact absurd hr help_ne_ok
    · split at hr
      · exact env_of_option h hr
      · exact env_of_option h hr
      · exact env_of_option h hr
      · cases hr

theorem env_of_word (h : FromTexts r.env) (hr : r.word w = .ok r') : FromTexts r'.env := by
  unfold word at hr
  split at hr
  · exact env_of_longOption h hr
  · exact env_of_shortOption h hr
  · cases hr
    exact h
  · exact env_of_argument h hr

/-- However many words there are, in whatever order, assignments come from texts alone. -/
theorem env_of_words (h : FromTexts r.env) (hr : r.words words = .ok r') : FromTexts r'.env := by
  -- a word may leave something pending, which is settled by one of the words after it
  induction words generalizing r with
  | nil => exact env_of_settle h hr
  | cons w rest ih =>
    unfold words at hr
    split at hr
    · rename_i he
      cases he
    · rename_i he
      cases he
      split at hr
      · exact env_of_settle h hr
      · obtain ⟨settled, hsettled, hr⟩ := ok_of_bind hr
        have kept := env_of_settle h hsettled
        cases hr
        exact kept
    · rename_i he
      cases he
      obtain ⟨read, hread, hr⟩ := ok_of_bind hr
      exact ih (env_of_word h hread) hr

end Reading

theorem Arguments.env_of_words {a : Arguments} (h : ofWords words = .ok a) : FromTexts a.env := by
  obtain ⟨r, hr, h⟩ := ok_of_bind h
  split at h
  · cases h
    exact Reading.env_of_words fromTexts_nil hr
  · cases h
  · cases h

/-! ## The configuration -/

theorem check_of_ofText {c : Config} {text : String} (h : Config.ofText text = .ok c) :
    c.check = .ok () := by
  obtain ⟨read, _, h⟩ := ok_of_bind h
  obtain ⟨_, hcheck, h⟩ := ok_of_bind h
  cases h
  exact hcheck

theorem ok_of_mapError {ε ε' α : Type} {x : Except ε α} {f : ε → ε'} {a : α}
    (h : x.mapError f = .ok a) : x = .ok a := by
  cases x with
  | error e => cases h
  | ok b =>
    cases h
    rfl

theorem check_of_loadConfig {fs : Host.Files} {here : Host.Path} {input : Bytes} {path : String}
    {c : Config} (h : Host.loadConfig fs here input path = .ok c) : c.check = .ok () := by
  obtain ⟨text, _, h⟩ := ok_of_bind h
  exact check_of_ofText (ok_of_mapError h)

/-- Whether it comes from a file or not, and whatever deadline the command line sets. -/
theorem check_of_config {p : Program} {a : Arguments} {c : Config} (h : p.config a = .ok c) :
    c.check = .ok () := by
  unfold Program.config at h
  extract_lets go at h
  have passed (read : Config) (hread : read.check = .ok ()) (h : go read = .ok c) :
      c.check = .ok () := by
    cases h
    cases a.timeoutSeconds <;> exact hread
  split at h
  · obtain ⟨read, hread, h⟩ := ok_of_bind h
    exact passed read (check_of_loadConfig hread) h
  · exact passed .default rfl h

end Cli

end GitSteward
