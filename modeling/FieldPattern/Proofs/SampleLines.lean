import FieldPattern.Preview
import FieldPattern.Proofs.LossyText

/-! # Samples on lines

A sampler reads its samples from the lines of what a program has written.  `Text.OnLines ls s` says
that the lines `ls`, written one after the other, are the text `s`: each line has its end, which is
a newline with or without a carriage return before it, and only a last line that is not empty may
lack it.  A carriage return before the newline is never part of the line.  Every text is on exactly
one list of lines, the one that is read from it (`Text.lines_eq_iff`).

A program that prints samples chooses one of the two line ends (`Sampler.Printed`).  What it is
given and what it leaves behind are told by `Sampler.Writes`, for any way in which programs are
started.  The main statement is `Sampler.samples_are_lines`. -/

namespace FieldPattern.Text

/-! ### Lines of a text -/

/-- The lines, with their ends, are the text. -/
inductive OnLines : List (List Char) → List Char → Prop
  | nothing : OnLines [] []
  | unended {l : List Char} : l ≠ [] → '\n' ∉ l → OnLines [l] l
  | newline {l s : List Char} {ls : List (List Char)} :
      '\n' ∉ l → l.getLast? ≠ some '\r' → OnLines ls s → OnLines (l :: ls) (l ++ '\n' :: s)
  | returned {l s : List Char} {ls : List (List Char)} :
      '\n' ∉ l → OnLines ls s → OnLines (l :: ls) (l ++ '\r' :: '\n' :: s)

variable {l s start : List Char} {ls : List (List Char)}

theorem OnLines.no_newline (h : OnLines ls s) : ∀ l ∈ ls, '\n' ∉ l := by
  induction h with
  | nothing => exact fun _ h => absurd h List.not_mem_nil
  | unended _ hl => exact List.forall_mem_singleton.2 hl
  | newline hl _ _ ih => exact List.forall_mem_cons.2 ⟨hl, ih⟩
  | returned hl _ ih => exact List.forall_mem_cons.2 ⟨hl, ih⟩

theorem dropReturn_append (l : List Char) : dropReturn (l ++ ['\r']) = l := by
  simp [dropReturn]

/-- Reading goes on after a part without a newline. -/
theorem linesFrom_append (h : '\n' ∉ l) (s : List Char) :
    linesFrom start (l ++ s) = linesFrom (l.reverse ++ start) s := by
  induction l generalizing start with
  | nil => rfl
  | cons c l ih =>
      rw [List.mem_cons, not_or] at h
      rw [List.cons_append, linesFrom, if_neg (Ne.symm h.1), ih h.2, List.reverse_cons,
        List.append_assoc, List.singleton_append]

theorem lines_append_newline (h : '\n' ∉ l) (s : List Char) :
    lines (l ++ '\n' :: s) = dropReturn l :: lines s := by
  rw [lines, linesFrom_append h, linesFrom, if_pos rfl, List.append_nil, List.reverse_reverse, lines]

theorem lines_of_no_newline (hne : l ≠ []) (h : '\n' ∉ l) : lines l = [l] := by
  have hread : linesFrom [] (l ++ []) = linesFrom (l.reverse ++ []) [] := linesFrom_append h []
  rw [List.append_nil, List.append_nil, linesFrom, List.reverse_reverse] at hread
  rw [lines, hread, if_neg (by simpa using hne)]

theorem lines_of_onLines (h : OnLines ls s) : lines s = ls := by
  induction h with
  | nothing => rfl
  | unended hne hl => exact lines_of_no_newline hne hl
  | newline hl hreturn _ ih => rw [lines_append_newline hl, dropReturn, if_neg hreturn, ih]
  | @returned l s _ hl _ ih =>
      -- Up to the newline the carriage return belongs to the line; it is dropped from its end.
      have hreturned : '\n' ∉ l ++ ['\r'] := by simp [hl]
      rw [List.append_cons, lines_append_newline hreturned, dropReturn_append, ih]

/-- A line that is read up to a newline. -/
theorem OnLines.cons_dropReturn (hl : '\n' ∉ l) (h : OnLines ls s) :
    OnLines (dropReturn l :: ls) (l ++ '\n' :: s) := by
  by_cases hreturn : l.getLast? = some '\r'
  · obtain ⟨l, rfl⟩ := List.getLast?_eq_some_iff.1 hreturn
    rw [dropReturn_append, List.append_assoc, List.singleton_append]
    exact .returned (fun hin => hl (List.mem_append_left _ hin)) h
  · rw [dropReturn, if_neg hreturn]
    exact .newline hl hreturn h

/-- What has been read and what is left are on the lines that come of them. -/
theorem onLines_linesFrom (hstart : '\n' ∉ start) (s : List Char) :
    OnLines (linesFrom start s) (start.reverse ++ s) := by
  -- By induction on what is left; a newline empties `start`, every other character joins it.
  induction s generalizing start with
  | nil =>
      rw [linesFrom, List.append_nil]
      cases start with
      | nil => exact .nothing
      | cons c start => exact .unended (by simp) (by rwa [List.mem_reverse])
  | cons c s ih =>
      rw [linesFrom]
      split_ifs with hc
      · rw [hc]
        exact .cons_dropReturn (by rwa [List.mem_reverse]) (ih List.not_mem_nil)
      · have hnext : OnLines (linesFrom (c :: start) s) ((c :: start).reverse ++ s) :=
          ih (by simp [Ne.symm hc, hstart])
        rwa [List.reverse_cons, List.append_assoc, List.singleton_append] at hnext

/-- Every text is on exactly one list of lines, the one that is read from it. -/
theorem lines_eq_iff : lines s = ls ↔ OnLines ls s :=
  ⟨fun h => h ▸ onLines_linesFrom List.not_mem_nil s, lines_of_onLines⟩

end FieldPattern.Text

namespace FieldPattern.Sampler

open Machine (Host Launcher Finished)
open Text (OnLines)

/-! ### What a program writes -/

/-- The two ways to end a line. -/
def lineEnds : List String := ["\n", "\r\n"]

/-- The texts, each followed by the line end. -/
def withEnds (lineEnd : String) (texts : List String) : String :=
  String.join (texts.map fun t => t ++ lineEnd)

/-- A text that takes one line, whichever way the line ends. -/
structure IsSample (t : String) : Prop where
  no_newline : '\n' ∉ t.toList
  no_return : t.toList.getLast? ≠ some '\r'

instance (t : String) : Decidable (IsSample t) :=
  decidable_of_iff ('\n' ∉ t.toList ∧ t.toList.getLast? ≠ some '\r')
    ⟨fun h => ⟨h.1, h.2⟩, fun h => ⟨h.no_newline, h.no_return⟩⟩

/-- The samples are printed on lines that end alike.  After the last sample the line end may be
missing, unless this sample is empty. -/
inductive Printed : List String → String → Prop
  | ended {e : String} (samples : List String) : e ∈ lineEnds → Printed samples (withEnds e samples)
  | unended {e last : String} (samples : List String) :
      e ∈ lineEnds → last ≠ "" → Printed (samples ++ [last]) (withEnds e samples ++ last)

/-- The program of the sampler, started on `host` for the pattern and the number, ends with success
and leaves `after`.  It has written `output`, and on its second stream anything. -/
def Writes (s : Sampler) (launch : Launcher) (pattern : String) (count : Nat) (host : Host)
    (output : ByteArray) (after : Host) : Prop :=
  ∃ errors, launch s.program (s.argumentsFor pattern count) host =
    (.ok ⟨.status 0, output, errors⟩, after)

variable {e t text : String} {samples : List String}

/-- A sample with its end stands before other lines. -/
theorem onLines_cons (he : e ∈ lineEnds) (ht : IsSample t) {ls : List (List Char)} {s : List Char}
    (h : OnLines ls s) : OnLines (t.toList :: ls) (t.toList ++ e.toList ++ s) := by
  rw [List.append_assoc]
  simp only [lineEnds, List.mem_cons, List.not_mem_nil, or_false] at he
  rcases he with rfl | rfl
  · exact .newline ht.no_newline ht.no_return h
  · exact .returned ht.no_newline h

theorem onLines_withEnds (he : e ∈ lineEnds) (hs : ∀ t ∈ samples, IsSample t)
    {ls : List (List Char)} {s : List Char} (h : OnLines ls s) :
    OnLines (samples.map String.toList ++ ls) ((withEnds e samples).toList ++ s) := by
  induction samples with
  | nil => exact h
  | cons t samples ih =>
      obtain ⟨ht, hs⟩ := List.forall_mem_cons.1 hs
      have hcons := onLines_cons he ht (ih hs)
      simpa [withEnds, String.toList_join] using hcons

/-- Printed samples are the lines of what is printed. -/
theorem Printed.onLines (h : Printed samples text) (hs : ∀ t ∈ samples, IsSample t) :
    OnLines (samples.map String.toList) text.toList := by
  cases h with
  | ended samples he =>
      have hlines := onLines_withEnds he hs .nothing
      rwa [List.append_nil, List.append_nil] at hlines
  | @unended e last samples he hne =>
      obtain ⟨hs, hlast⟩ := List.forall_mem_append.1 hs
      rw [List.forall_mem_singleton] at hlast
      rw [List.map_append, String.toList_append]
      exact onLines_withEnds he hs (.unended (by simpa using hne) hlast.no_newline)

/-! ### What a sampler answers -/

variable {s : Sampler} {launch : Launcher} {pattern : String} {count : Nat} {host after : Host}
  {output : ByteArray}

theorem samplesIn_of_onLines (h : OnLines (samples.map String.toList) (Text.lossy output).toList) :
    samplesIn output count = samples.take count := by
  rw [Text.lossy, String.toList_ofList, ← Text.lines_eq_iff] at h
  rw [samplesIn, h, List.map_map]
  simp [Function.comp_def]

/-- The lines of an output, as texts. -/
theorem exists_onLines (output : ByteArray) :
    ∃ samples : List String, OnLines (samples.map String.toList) (Text.lossy output).toList := by
  refine ⟨(Text.lines (Text.lossy output).toList).map String.ofList, ?_⟩
  rw [← Text.lines_eq_iff, List.map_map]
  simp [Function.comp_def]

theorem generate_of_writes (h : s.Writes launch pattern count host output after) :
    s.generate launch pattern count host = (.ok (samplesIn output count), after) := by
  obtain ⟨errors, h⟩ := h
  simp only [generate, bind, StateT.bind, h]
  rfl

/-- Samples are only read from what a program has written that ended with success. -/
theorem writes_of_generate {texts : List String}
    (h : (s.generate launch pattern count host).1 = .ok texts) :
    ∃ output after, s.Writes launch pattern count host output after ∧
      texts = samplesIn output count := by
  rcases hrun : launch s.program (s.argumentsFor pattern count) host with ⟨outcome, after⟩
  simp only [generate, bind, StateT.bind, hrun] at h
  split at h
  · next finished =>
      obtain ⟨ending, output, errors⟩ := finished
      change answer ⟨ending, output, errors⟩ count = _ at h
      rw [answer] at h
      split_ifs at h with hsucceeded
      obtain rfl : ending = .status 0 := by simpa [Finished.succeeded] using hsucceeded
      exact ⟨output, after, ⟨errors, hrun⟩, (Except.ok.inj h).symm⟩
  · cases h
  · cases h

/-- **Samples are lines.**  If the program prints samples on lines and ends with success, the sampler
answers with the first `count` of them, in order and unchanged.  Whatever the program writes before
it ends with success, the sampler answers with the first `count` lines of it.  No other answer holds
samples; so there are never more than `count`, and none with a newline. -/
theorem samples_are_lines (s : Sampler) (launch : Launcher) (pattern : String) (count : Nat)
    (host after : Host) :
    (∀ samples text, (∀ t ∈ samples, IsSample t) → Printed samples text →
      s.Writes launch pattern count host text.toUTF8 after →
      s.generate launch pattern count host = (.ok (samples.take count), after)) ∧
    (∀ output, s.Writes launch pattern count host output after →
      ∃ lines : List String, OnLines (lines.map String.toList) (Text.lossy output).toList ∧
        s.generate launch pattern count host = (.ok (lines.take count), after)) ∧
    ∀ texts, (s.generate launch pattern count host).1 = .ok texts →
      (∃ output after, s.Writes launch pattern count host output after) ∧
        texts.length ≤ count ∧ ∀ t ∈ texts, '\n' ∉ t.toList := by
  refine ⟨fun samples text hs hprinted hwrites => ?_, fun output hwrites => ?_, fun texts h => ?_⟩
  · have hlines := hprinted.onLines hs
    rw [← Text.lossy_toUTF8 text] at hlines
    rw [generate_of_writes hwrites, samplesIn_of_onLines hlines]
  · obtain ⟨lines, hlines⟩ := exists_onLines output
    exact ⟨lines, hlines, by rw [generate_of_writes hwrites, samplesIn_of_onLines hlines]⟩
  · obtain ⟨output, after, hwrites, rfl⟩ := writes_of_generate h
    obtain ⟨lines, hlines⟩ := exists_onLines output
    rw [samplesIn_of_onLines hlines]
    refine ⟨⟨output, after, hwrites⟩, List.length_take_le .., fun t ht => ?_⟩
    exact hlines.no_newline _ (List.mem_map_of_mem (List.mem_of_mem_take ht))

/-- Two runs of `printf`.  One prints three samples, the second one empty and the last one without
an end, and is asked for two.  The other one writes a byte that starts no character. -/
theorem samples_are_lines_truncated :
    let host : Host := ⟨⟨[], [], 0⟩, [], "/", ".tmp"⟩
    let writing (output : ByteArray) : Launcher := fun _ _ =>
      pure (.ok ⟨.status 0, output, .empty⟩)
    let printing := writing "[é]\r\n\r\n2".toUTF8
    let tearing := writing ⟨#[0xE9, 0x61, 0x0A, 0x31]⟩
    let whole : Sampler := ⟨"printf", ["%s\\r\\n\\r\\n%s"]⟩
    let torn : Sampler := ⟨"printf", ["\\351%s\\n%s"]⟩
    (∀ t ∈ ["[é]", "", "2"], IsSample t) ∧ Printed ["[é]", "", "2"] "[é]\r\n\r\n2" ∧
      whole.generate printing "[é]" 2 host = (.ok ["[é]", ""], host) ∧
      torn.generate tearing "a" 1 host = (.ok ["\ufffda"], host) ∧
      ["\ufffda"].length ≤ 1 ∧ ∀ t ∈ ["\ufffda"], '\n' ∉ t.toList := by
  intro host writing printing tearing whole torn
  have hsamples : ∀ t ∈ ["[é]", "", "2"], IsSample t := by decide
  have hprinted : Printed ["[é]", "", "2"] "[é]\r\n\r\n2" :=
    .unended (e := "\r\n") ["[é]", ""] (by decide) (by decide)
  obtain ⟨hframed, -, -⟩ := samples_are_lines whole printing "[é]" 2 host host
  obtain ⟨-, hany, hbounds⟩ := samples_are_lines torn tearing "a" 1 host host
  obtain ⟨lines, hlines, htorn⟩ := hany _ ⟨_, rfl⟩
  have hread : Text.lines (Text.lossy ⟨#[0xE9, 0x61, 0x0A, 0x31]⟩).toList =
      ["\ufffda", "1"].map String.toList := by decide +kernel
  rw [← Text.lines_eq_iff, hread] at hlines
  obtain rfl : ["\ufffda", "1"] = lines :=
    (List.map_inj_right fun _ _ => String.toList_inj.1).1 hlines
  obtain ⟨-, hlength, hbreaks⟩ := hbounds ["\ufffda"] (congrArg Prod.fst htorn)
  exact ⟨hsamples, hprinted, hframed _ _ hsamples hprinted ⟨_, rfl⟩, htorn, hlength, hbreaks⟩

end FieldPattern.Sampler
