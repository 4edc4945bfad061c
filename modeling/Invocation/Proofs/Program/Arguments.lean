import Invocation.Program.Arguments
import Mathlib.Data.List.TakeWhile

/-!
# Arguments that ask for an invocation

Every invocation can be asked for: with a configuration file or without one, by
any of the built-in handlers, and with a runtime tag or without one.  An option
whose value stands behind an equals sign in the same argument is never taken for
anything else, whatever the value.
-/

namespace Invocation

namespace Builtin

/-- The name by which a handler is asked for. -/
def word : Builtin → String
  | .echo => "echo"
  | .inspect => "inspect"
  | .fail => "fail"
  | .panic => "panic"

theorem ofName?_word (h : Builtin) : ofName? h.word = some h := by
  cases h with
  | echo => rfl
  | inspect => rfl
  | fail => rfl
  | panic => rfl

end Builtin

namespace Program

/-- An argument that begins with the name of an option and an equals sign gives
that option a value. -/
theorem Token.of_option {option : String} (key : List Char)
    (hoption : option.toList = '-' :: '-' :: (key ++ ['='])) (hkey : '=' ∉ key)
    (value : String) :
    Token.of (option ++ value) = .long (String.ofList key) (some value) := by
  have hname : ∀ c ∈ key, decide (c ≠ '=') = true := fun c hc =>
    decide_eq_true fun heq => hkey (heq ▸ hc)
  have htake : (key ++ '=' :: value.toList).takeWhile (· ≠ '=') = key := by
    rw [List.takeWhile_append_of_pos hname]
    simp
  have hdrop : (key ++ '=' :: value.toList).dropWhile (· ≠ '=') =
      '=' :: value.toList := by
    rw [List.dropWhile_append_of_pos hname]
    simp
  have hchars : (option ++ value).toList =
      '-' :: '-' :: (key ++ '=' :: value.toList) := by
    simp [hoption]
  rw [Token.of, hchars]
  -- two dashes alone are a separator, so what follows them is shown not empty
  cases hrest : key ++ '=' :: value.toList with
  | nil => simp at hrest
  | cons c cs =>
      rw [hrest] at htake hdrop
      simp only [htake, hdrop, String.ofList_toList]

section Taken

variable {t t' : Taken}

theorem takeArguments_option {arg key value : String} {o : Opt}
    (harg : Token.of arg = .long key (some value))
    (ho : Opt.ofName? t.place key = some o)
    (ht : t.setOption o value = some t') (hspoiled : t.spoiled = false)
    (rest : List String) :
    takeArguments t (arg :: rest) = takeArguments t' rest := by
  conv => lhs; unfold takeArguments
  simp [harg, Taken.refuses, hspoiled, ho, ht]

theorem takeArguments_run (hplace : t.place = .top) (rest : List String) :
    takeArguments t ("run" :: rest) = takeArguments (t.enter .run) rest := by
  have hword : Token.of "run" = .word "run" := rfl
  conv => lhs; unfold takeArguments
  simp [hword, Taken.refuses, Token.isWord, hplace, Place.ofName?]

end Taken

/-- Arguments that ask for an invocation. -/
def runArguments (file : Option String) (handler : Builtin)
    (tag : Option String) : List String :=
  (file.map ("--config=" ++ ·)).toList ++
    ["run", "--handler=" ++ handler.word] ++
    (tag.map ("--runtime-header=" ++ ·)).toList

theorem ofArguments_runArguments {file : Option String} (hfile : file ≠ some "")
    (handler : Builtin) (tag : Option String) :
    Intent.ofArguments (runArguments file handler tag) =
      .command file (.run handler tag) := by
  let entered : Taken := { place := .run, outerFile := file }
  have hhandler : entered.setOption .handler handler.word =
      some { entered with handler } := by
    simp [Taken.setOption, Builtin.ofName?_word, entered]
  have hoptions : takeArguments entered (("--handler=" ++ handler.word) ::
      (tag.map ("--runtime-header=" ++ ·)).toList) =
      .command file (.run handler tag) := by
    rw [takeArguments_option
      (Token.of_option "handler".toList rfl (by decide) _) rfl hhandler rfl]
    cases tag with
    | none => rfl
    | some tag =>
        have htag : takeArguments { entered with handler }
            ["--runtime-header=" ++ tag] =
            takeArguments { entered with handler, runtimeHeader := tag } [] :=
          takeArguments_option
            (Token.of_option "runtime-header".toList rfl (by decide) tag) rfl
            rfl rfl []
        exact htag
  cases file with
  | none => exact (takeArguments_run rfl _).trans hoptions
  | some file =>
      have hname : file ≠ "" := fun h => hfile (congrArg some h)
      have hconfig : ({} : Taken).setOption .config file =
          some { file := some file } := by
        simp [Taken.setOption, hname]
      exact ((takeArguments_option
        (Token.of_option "config".toList rfl (by decide) file) rfl hconfig rfl
        _).trans (takeArguments_run rfl _)).trans hoptions

end Program
end Invocation
