/-
What a subscription hands over: the events on the lines of the whole body, in
order, however the body is cut into chunks.

# Cuts

Lines are found while the body arrives: every chunk is put behind what was
carried over, and what follows its last line break is carried on. After some
chunks the lines found and the carry are those of all bytes so far
(`ofChunks_eq`), because taking in a chunk is cutting the longer body
(`split_append`). The carry makes the cuts invisible, also one inside a
character: bytes become text only when their line is complete.

# Lines

The law speaks of the body split at every line break, so its last line is
what follows the last of them. Where the body broke off, that one was never
handed over. A line break or a carriage return at the end of a line changes
nothing, because it stays a character of its own whatever stands in front of
it (`scan_concat`), and then is trimmed.
-/
import Fleetkeeper.Engine.Client

namespace Fleetkeeper

namespace Http.Lines

-- =================================================================== lines

/-- The lines found and the carry are the body split at every line break. -/
theorem split_eq (bytes : List UInt8) :
    (split bytes).1 ++ [(split bytes).2] = bytes.splitOn lineBreak := by
  induction bytes with
  | nil => rfl
  | cons b rest ih =>
    unfold split List.splitOn
    rw [List.splitOnP_cons_eq_if_modifyHead]
    unfold List.splitOn at ih
    rw [← ih]
    by_cases hb : b = lineBreak
    · simp [hb]
    · cases hlines : (split rest).1 with
      | nil => simp [hb, hlines]
      | cons line more => simp [hb, hlines]

/-- More bytes continue the line that is carried over. -/
theorem split_append (xs ys : List UInt8) :
    split (xs ++ ys) = feed (split xs) ys := by
  unfold feed
  induction xs with
  | nil => rfl
  | cons b xs ih =>
    rw [List.cons_append, split, ih, split]
    by_cases hb : b = lineBreak
    · simp [hb]
    · cases hlines : (split xs).1 with
      | nil =>
        cases hmore : (split ((split xs).2 ++ ys)).1 with
        | nil => simp [hb, hlines, hmore, split]
        | cons line more => simp [hb, hlines, hmore, split]
      | cons line more => simp [hb, hlines]

/-- Cuts between chunks make no difference. -/
theorem ofChunks_eq (chunks : List (List UInt8)) :
    ofChunks chunks = split chunks.flatten := by
  have hrun : ∀ (chunks : List (List UInt8)) (xs : List UInt8),
      chunks.foldl feed (split xs) = split (xs ++ chunks.flatten) := by
    intro chunks
    induction chunks with
    | nil => simp
    | cons chunk rest ih =>
      intro xs
      rw [List.foldl_cons, ← split_append, ih, List.flatten_cons,
        List.append_assoc]
  exact hrun chunks []

end Http.Lines

-- ==================================================================== text

namespace Text

namespace Utf8

theorem isTail_of_lt {b : UInt8} (hb : b < 0x80) : isTail b = false := by
  unfold isTail
  simp only [Bool.and_eq_false_iff, decide_eq_false_iff_not]
  exact .inl (UInt8.not_le.2 hb)

/-- A byte of ASCII continues nothing. -/
theorem admits_of_lt {b : UInt8} (hb : b < 0x80) (lead : UInt8) :
    admits lead b = false := by
  have htail := isTail_of_lt hb
  have hnot : ∀ least : UInt8, 0x80 ≤ least → decide (least ≤ b) = false := by
    intro least hleast
    rw [decide_eq_false_iff_not, UInt8.not_le]
    exact UInt8.lt_of_lt_of_le hb hleast
  unfold admits
  split
  · simp [hnot 0xA0 (by decide)]
  · split
    · simp [hnot 0x80 (by decide)]
    · split
      · simp [hnot 0x90 (by decide)]
      · split
        · simp [hnot 0x80 (by decide)]
        · exact htail

/-- No sequence takes in a byte of the lower half, so one at the end leaves the
sequence in front of it as it is. -/
theorem next_concat {b : UInt8} (hb : b < 0x80) (lead : UInt8)
    (rest : List UInt8) :
    next lead (rest ++ [b]) = next lead rest := by
  have htail := isTail_of_lt hb
  have hadmits := admits_of_lt hb lead
  unfold next
  -- three bytes at most are looked at: the new one is seen only behind fewer
  rcases rest with _ | ⟨x, _ | ⟨y, _ | ⟨z, rest⟩⟩⟩ <;> grind

theorem next_le (lead : UInt8) (rest : List UInt8) :
    (next lead rest).2 ≤ rest.length := by
  unfold next
  rcases rest with _ | ⟨x, _ | ⟨y, _ | ⟨z, rest⟩⟩⟩ <;> grind

/-- A byte of the lower half at the end is a character of its own. -/
theorem scan_concat {b : UInt8} (hb : b < 0x80) (bytes : List UInt8) :
    scan (bytes ++ [b]) = scan bytes ++ [some (Char.ofNat b.toNat)] := by
  fun_induction scan bytes with
  | case1 =>
    have hwidth : width b = 1 := if_pos hb
    simp [scan, next, hwidth]
  | case2 lead rest r ih =>
    have hdrop : (rest ++ [b]).drop r.2 = rest.drop r.2 ++ [b] :=
      List.drop_append_of_le_length (next_le lead rest)
    rw [List.cons_append, scan, next_concat hb, hdrop, ih, List.cons_append]

end Utf8

/-- A blank at the end is trimmed. -/
theorem trimChars_concat {c : Char} (hc : isBlank c = true) (cs : List Char) :
    trimChars (cs ++ [c]) = trimChars cs := by
  unfold trimChars dropBlank
  rw [List.dropWhile_append]
  by_cases hcs : cs.dropWhile isBlank = []
  · simp [hcs, hc]
  · simp [hcs, hc]

end Text

-- ================================================================== events

namespace PollAnswer

/-- The event on a line, if there is one: bytes that are no text replaced and
blanks at both ends trimmed, the line is an event written as a value. -/
def eventOn? (line : List UInt8) : Option EngineEvent := do
  let j ← Json.parse
    (String.ofList (Text.trimChars (Text.Utf8.decodeLossy line)))
  (EngineEvent.ofJson j).toOption

/-- A line holds an event for a subscription just where it is one. -/
theorem event?_readLine (line : List UInt8) :
    (readLine line).bind event? = eventOn? line := by
  unfold readLine eventOn?
  generalize Text.trimChars (Text.Utf8.decodeLossy line) = text
  by_cases hblank : text.isEmpty = true
  · rw [List.isEmpty_iff.1 hblank]
    rfl
  · dsimp only
    rw [if_neg hblank, Option.bind_some]
    cases Json.parse (String.ofList text) with
    | none => rfl
    | some j =>
      show event? (EngineEvent.ofJson j) = (EngineEvent.ofJson j).toOption
      cases EngineEvent.ofJson j <;> rfl

theorem eventOn?_concat {b : UInt8} (hb : b < 0x80)
    (hblank : Text.isBlank (Char.ofNat b.toNat) = true) (line : List UInt8) :
    eventOn? (line ++ [b]) = eventOn? line := by
  unfold eventOn? Text.Utf8.decodeLossy
  rw [Text.Utf8.scan_concat hb, List.map_append, List.map_singleton,
    Option.getD_some, Text.trimChars_concat hblank]

theorem ofLines_events (node : String) (lines : List (List UInt8))
    (result : Nat → Except Fault Nat) :
    (ofLines node lines result).events = lines.filterMap eventOn? := by
  unfold ofLines
  dsimp only
  rw [List.filterMap_filterMap]
  simp only [event?_readLine]

/-- A body that came whole brings the events on its lines, what follows the
last line break included. -/
theorem ofStream_whole (node : String) (chunks : List (List UInt8)) :
    ofStream node chunks none
      = ofLines node (chunks.flatten.splitOn Http.Lines.lineBreak) .ok := by
  unfold ofStream
  dsimp only
  rw [Http.Lines.ofChunks_eq, Http.Lines.split_eq]

/-- A body that broke off brings the events on the lines that were finished. -/
theorem ofStream_broken (node : String) (chunks : List (List UInt8))
    (e : Fault) :
    ofStream node chunks (some e)
      = ofLines node (chunks.flatten.splitOn Http.Lines.lineBreak).dropLast
          fun _ => .error e := by
  unfold ofStream
  dsimp only
  rw [Http.Lines.ofChunks_eq, ← Http.Lines.split_eq, List.dropLast_concat]

end PollAnswer

namespace EngineClient

open Http.Lines (lineBreak)
open PollAnswer (eventOn?)

variable {σ : Type}

/-- What a client hands over of a reply to its subscription. -/
theorem events_of_reply {c : EngineClient σ} {access : AccessControl}
    {caller : Caller} {window : Window} {s : σ} {r : Http.Reply}
    (hgranted : access.allows caller ⟨.node, c.node⟩ .read = true)
    (hreply : (c.ask .get "/events" window.query none s).1 = .ok r)
    (hsuccess : r.isSuccess = true) :
    (c.events access caller window s).1
      = .ofStream c.node r.chunks (if r.broken then
        some Http.Reply.brokenOff else none) := by
  have hcheck : access.check caller ⟨.node, c.node⟩ .read = .ok () :=
    if_pos hgranted
  have hchecked : check "/events" r = .ok r := if_pos hsuccess
  have hbind :
      ((c.ask .get "/events" window.query none s).1 >>= check "/events")
          = .ok r := by
    rw [hreply]
    exact hchecked
  unfold events
  rw [hcheck]
  dsimp only
  rw [hbind]

/-- Only a reply to a caller who may read the node makes a subscription
succeed. -/
theorem replied_of_ok {c : EngineClient σ} {access : AccessControl}
    {caller : Caller} {window : Window} {s : σ} {n : Nat}
    (hn : (c.events access caller window s).1.result = .ok n) :
    ∃ r, access.allows caller ⟨.node, c.node⟩ .read = true
      ∧ (c.ask .get "/events" window.query none s).1 = .ok r
      ∧ r.isSuccess = true := by
  unfold events at hn
  by_cases hgranted : access.allows caller ⟨.node, c.node⟩ .read = true
  · have hcheck : access.check caller ⟨.node, c.node⟩ .read = .ok () :=
      if_pos hgranted
    rw [hcheck] at hn
    dsimp only at hn
    cases hreply : (c.ask .get "/events" window.query none s).1 with
    | error e =>
      rw [hreply] at hn
      cases hn
    | ok r =>
      by_cases hsuccess : r.isSuccess = true
      · exact ⟨r, hgranted, rfl, hsuccess⟩
      · obtain ⟨e, hfails⟩ : ∃ e, check "/events" r = .error e := by
          unfold check
          rw [if_neg hsuccess]
          split <;> exact ⟨_, rfl⟩
        have hbind :
            ((c.ask .get "/events" window.query none s).1 >>= check "/events")
              = .error e := by
          rw [hreply]
          exact hfails
        rw [hbind] at hn
        cases hn
  · have hcheck : access.check caller ⟨.node, c.node⟩ .read
        = .error (.accessDenied _ _) := if_neg hgranted
    rw [hcheck] at hn
    cases hn

/-- A subscription hands over the events on the lines of the body, each line
that holds an event once and in order; a line that holds none is passed over.
If the body came whole, that is all of it, with what follows the last line
break for a line, and the answer is the number of events handed over; if it
broke off, the answer is a fault, and the lines are those that were finished.
Nothing depends on how the body was cut into chunks, nor on the line breaks
and carriage returns that lines may end with. And a subscription succeeds only
if it was granted and a body came whole. -/
theorem events_delivered (c : EngineClient σ) (access : AccessControl)
    (caller : Caller) (window : Window) (s : σ) :
    let answer := (c.events access caller window s).1
    let replied (r : Http.Reply) :=
      access.allows caller ⟨.node, c.node⟩ .read = true
      ∧ (c.ask .get "/events" window.query none s).1 = .ok r
      ∧ r.isSuccess = true
    (∀ r, replied r → r.broken = false →
        answer.events = (r.chunks.flatten.splitOn lineBreak).filterMap eventOn?
          ∧ answer.result = .ok answer.events.length)
      ∧ (∀ r, replied r → r.broken = true →
          answer.events
            = (r.chunks.flatten.splitOn lineBreak).dropLast.filterMap eventOn?
            ∧ answer.result = .error Http.Reply.brokenOff)
      ∧ (∀ n, answer.result = .ok n → ∃ r, replied r ∧ r.broken = false)
      ∧ ∀ line, eventOn? (line ++ [lineBreak]) = eventOn? line
          ∧ eventOn? (line ++ [13]) = eventOn? line := by
  intro answer replied
  have hreplied : ∀ r, replied r → answer = .ofStream c.node r.chunks
      (if r.broken then some Http.Reply.brokenOff else none) := by
    rintro r ⟨hgranted, hreply, hsuccess⟩
    exact events_of_reply hgranted hreply hsuccess
  refine ⟨?_, ?_, ?_, ?_⟩
  · intro r hr hwhole
    rw [hreplied r hr, hwhole, if_neg Bool.false_ne_true,
      PollAnswer.ofStream_whole]
    exact ⟨PollAnswer.ofLines_events .., rfl⟩
  · intro r hr hbroken
    rw [hreplied r hr, hbroken, if_pos rfl, PollAnswer.ofStream_broken]
    exact ⟨PollAnswer.ofLines_events .., rfl⟩
  · intro n hn
    obtain ⟨r, hr⟩ := replied_of_ok hn
    refine ⟨r, hr, ?_⟩
    cases hbroken : r.broken with
    | false => rfl
    | true =>
      rw [hreplied r hr, hbroken, if_pos rfl, PollAnswer.ofStream_broken] at hn
      cases hn
  · intro line
    exact ⟨PollAnswer.eventOn?_concat (by decide) (by decide) line,
      PollAnswer.eventOn?_concat (by decide) (by decide) line⟩

end EngineClient

end Fleetkeeper
