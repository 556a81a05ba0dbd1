import Bumble.AtParameters
import Bumble.DelimitedStream

/-!
# Streams of AT commands and responses (`bumble-at/src/lib.rs`)

A command ends with a carriage return; a response stands between two line ends.  A stream is the
buffer of what is not parsed yet.
-/

namespace Bumble.At

def cr : UInt8 := 0x0D
def lf : UInt8 := 0x0A

/-! ## 1. Commands -/

namespace CommandStream

/-- The octets in front of the first carriage return, and those behind it. -/
def nextLine (buffer : Bytes) : Option (Bytes × Bytes) :=
  match buffer.findIdx? (· == cr) with
  | some position => some (buffer.take position, buffer.drop (position + 1))
  | none => none

theorem nextLine_append {line : Bytes} (hline : cr ∉ line) (rest : Bytes) :
    nextLine (line ++ cr :: rest) = some (line, rest) := by
  have hnone : line.findIdx? (· == cr) = none := by
    rw [List.findIdx?_eq_none_iff]
    intro byte hmem
    exact beq_eq_false_iff_ne.mpr fun heq => hline (heq ▸ hmem)
  have hposition : (line ++ cr :: rest).findIdx? (· == cr) = some line.length := by
    rw [List.findIdx?_append, hnone, List.findIdx?_cons, if_pos (beq_self_eq_true cr)]
    exact congrArg some (Nat.zero_add _)
  rw [nextLine, hposition]
  dsimp only
  rw [List.take_left' rfl, ← List.drop_drop, List.drop_left' rfl]
  rfl

theorem nextLine_eq_none {buffer : Bytes} (hnone : nextLine buffer = none) : cr ∉ buffer := by
  intro hmem
  rw [nextLine] at hnone
  split at hnone
  · cases hnone
  · next hposition =>
    have hbyte := List.findIdx?_eq_none_iff.mp hposition cr hmem
    exact absurd hbyte (by decide)

theorem nextLine_eq_some {buffer line rest : Bytes} (hsome : nextLine buffer = some (line, rest)) :
    cr ∉ line ∧ buffer = line ++ cr :: rest := by
  by_cases hmem : cr ∈ buffer
  · obtain ⟨front, later, hfront, hbuffer⟩ := List.eq_append_cons_of_mem hmem
    rw [hfront, nextLine_append hbuffer] at hsome
    cases hsome
    exact ⟨hbuffer, hfront⟩
  · have hnone : nextLine buffer = none := by
      have hposition : buffer.findIdx? (· == cr) = none := by
        rw [List.findIdx?_eq_none_iff]
        intro byte hbyte
        exact beq_eq_false_iff_ne.mpr fun heq => hmem (heq ▸ hbyte)
      rw [nextLine, hposition]
    rw [hnone] at hsome
    cases hsome

def delimiting : Delimiting UInt8 where
  next := nextLine
  shorter := by
    intro buffer line rest hnext
    rw [(nextLine_eq_some hnext).2, List.length_append, List.length_cons]
    omega
  stable := by
    intro buffer line rest hnext more
    obtain ⟨hline, rfl⟩ := nextLine_eq_some hnext
    rw [List.append_assoc]
    exact nextLine_append hline (rest ++ more)

def push (buffer bytes : Bytes) : Outcome Bytes Error (List AtCommand) :=
  delimiting.push AtCommand.parse buffer bytes

/-- What is received of chunks on a new stream, going on after errors. -/
def received (chunks : List Bytes) : List AtCommand := delimiting.received AtCommand.parse [] chunks

/-- In every push the waiting lines are all valid or the first is not, and in the last one they
    are all valid or none is. -/
def Steady (chunks : List Bytes) : Prop := delimiting.Steady AtCommand.parse [] chunks

theorem items_eq (buffer : Bytes) : delimiting.items buffer = (buffer.splitOn cr).dropLast := by
  induction buffer using Delimiting.items.induct delimiting with
  | case1 buffer hnext =>
    rw [Delimiting.items_of_none hnext, List.splitOn_eq_singleton (nextLine_eq_none hnext)]
    rfl
  | case2 buffer line rest hnext ih =>
    obtain ⟨hline, hbuffer⟩ := nextLine_eq_some hnext
    rw [Delimiting.items_of_some hnext, ih, hbuffer,
      List.splitOn_append_cons_self_of_not_mem hline,
      List.dropLast_cons_of_ne_nil (List.splitOn_ne_nil cr rest)]

end CommandStream

/-! ## 2. Responses -/

def findCrlf : Bytes → Option Nat
  | first :: second :: rest =>
    if first = cr ∧ second = lf then some 0 else (findCrlf (second :: rest)).map (· + 1)
  | _ => none

def findCrlfFrom (buffer : Bytes) (start : Nat) : Option Nat :=
  (findCrlf (buffer.drop start)).map (start + ·)

theorem findCrlf_append {line : Bytes} (hline : ¬ [cr, lf] <:+: line) (rest : Bytes) :
    findCrlf (line ++ cr :: lf :: rest) = some line.length := by
  induction line with
  | nil => rfl
  | cons first line ih =>
    have htail : ¬ [cr, lf] <:+: line := fun hinfix => hline (List.infix_cons hinfix)
    have hrest := ih htail
    rcases line with _ | ⟨second, line⟩
    · rw [List.cons_append, List.nil_append, findCrlf, if_neg (by rintro ⟨-, ⟨⟩⟩)]
      rfl
    · have hhead : ¬ (first = cr ∧ second = lf) := by
        rintro ⟨rfl, rfl⟩
        exact hline (List.prefix_append [cr, lf] line).isInfix
      rw [List.cons_append, List.cons_append, findCrlf, if_neg hhead, ← List.cons_append, hrest]
      rfl

theorem findCrlf_eq_some {buffer : Bytes} {position : Nat}
    (hsome : findCrlf buffer = some position) :
    ∃ line rest, buffer = line ++ cr :: lf :: rest ∧ line.length = position ∧
      ¬ [cr, lf] <:+: line := by
  induction buffer using findCrlf.induct generalizing position with
  | case1 first second rest hboth =>
    rw [findCrlf, if_pos hboth] at hsome
    obtain ⟨rfl, rfl⟩ := hboth
    exact ⟨[], rest, rfl, Option.some.inj hsome, by simp⟩
  | case2 first second rest hhead ih =>
    rw [findCrlf, if_neg hhead] at hsome
    obtain ⟨before, hbefore, rfl⟩ := Option.map_eq_some_iff.mp hsome
    obtain ⟨line, later, hbuffer, hlength, hline⟩ := ih hbefore
    refine ⟨first :: line, later, by rw [hbuffer]; rfl, congrArg (· + 1) hlength, ?_⟩
    intro hinfix
    rcases List.infix_cons_iff.mp hinfix with hprefix | hinfix
    · obtain ⟨rfl, hsecond⟩ := List.cons_prefix_cons.mp hprefix
      obtain ⟨more, rfl⟩ := hsecond
      obtain ⟨rfl, -⟩ := List.cons.inj hbuffer
      exact hhead ⟨rfl, rfl⟩
    · exact hline hinfix
  | case3 buffer hshort =>
    rw [findCrlf] at hsome
    · cases hsome
    · exact hshort

namespace ResponseStream

/-- The octets between the first two line ends, and those behind the second. -/
def nextLine (buffer : Bytes) : Option (Bytes × Bytes) := do
  let header ← findCrlfFrom buffer 0
  let trailer ← findCrlfFrom buffer (header + 2)
  pure ((buffer.drop (header + 2)).take (trailer - (header + 2)), buffer.drop (trailer + 2))

theorem nextLine_append {front line : Bytes} (hfront : ¬ [cr, lf] <:+: front)
    (hline : ¬ [cr, lf] <:+: line) (rest : Bytes) :
    nextLine (front ++ cr :: lf :: (line ++ cr :: lf :: rest)) = some (line, rest) := by
  have hheader : findCrlfFrom (front ++ cr :: lf :: (line ++ cr :: lf :: rest)) 0 =
      some front.length := by
    rw [findCrlfFrom, List.drop_zero, findCrlf_append hfront]
    exact congrArg some (Nat.zero_add _)
  have hdrop : (front ++ cr :: lf :: (line ++ cr :: lf :: rest)).drop (front.length + 2) =
      line ++ cr :: lf :: rest := by
    rw [← List.drop_drop, List.drop_left' rfl]
    rfl
  have htrailer : findCrlfFrom (front ++ cr :: lf :: (line ++ cr :: lf :: rest))
      (front.length + 2) = some (front.length + 2 + line.length) := by
    rw [findCrlfFrom, hdrop, findCrlf_append hline]
    rfl
  have hrest : (front ++ cr :: lf :: (line ++ cr :: lf :: rest)).drop
      (front.length + 2 + line.length + 2) = rest := by
    rw [Nat.add_assoc (front.length + 2), ← List.drop_drop, hdrop, ← List.drop_drop,
      List.drop_left' rfl]
    rfl
  rw [nextLine, hheader]
  change (findCrlfFrom _ (front.length + 2)).bind _ = _
  rw [htrailer]
  change some (List.take _ _, _) = _
  rw [hdrop, hrest, Nat.add_sub_cancel_left, List.take_left' rfl]

theorem nextLine_eq_some {buffer line rest : Bytes} (hsome : nextLine buffer = some (line, rest)) :
    ∃ front, ¬ [cr, lf] <:+: front ∧ ¬ [cr, lf] <:+: line ∧
      buffer = front ++ cr :: lf :: (line ++ cr :: lf :: rest) := by
  obtain ⟨header, hheader, htail⟩ := Option.bind_eq_some_iff.mp hsome
  obtain ⟨trailer, htrailer, -⟩ := Option.bind_eq_some_iff.mp htail
  rw [findCrlfFrom, List.drop_zero] at hheader
  obtain ⟨_, hfound, rfl⟩ := Option.map_eq_some_iff.mp hheader
  obtain ⟨front, later, rfl, rfl, hfront⟩ := findCrlf_eq_some hfound
  have hdrop : (front ++ cr :: lf :: later).drop (0 + front.length + 2) = later := by
    rw [Nat.zero_add, ← List.drop_drop, List.drop_left' rfl]
    rfl
  rw [findCrlfFrom, hdrop] at htrailer
  obtain ⟨_, hfound, rfl⟩ := Option.map_eq_some_iff.mp htrailer
  obtain ⟨between, rest', rfl, -, hbetween⟩ := findCrlf_eq_some hfound
  rw [nextLine_append hfront hbetween] at hsome
  cases hsome
  exact ⟨front, hfront, hbetween, rfl⟩

def delimiting : Delimiting UInt8 where
  next := nextLine
  shorter := by
    intro buffer line rest hnext
    obtain ⟨front, -, -, rfl⟩ := nextLine_eq_some hnext
    simp only [List.length_append, List.length_cons]
    omega
  stable := by
    intro buffer line rest hnext more
    obtain ⟨front, hfront, hline, rfl⟩ := nextLine_eq_some hnext
    simp only [List.append_assoc, List.cons_append]
    exact nextLine_append hfront hline (rest ++ more)

def push (buffer bytes : Bytes) : Outcome Bytes Error (List AtResponse) :=
  delimiting.push AtResponse.parse buffer bytes

/-- What is received of chunks on a new stream, going on after errors. -/
def received (chunks : List Bytes) : List AtResponse :=
  delimiting.received AtResponse.parse [] chunks

def Steady (chunks : List Bytes) : Prop := delimiting.Steady AtResponse.parse [] chunks

def framed (line : Bytes) : Bytes := cr :: lf :: (line ++ [cr, lf])

theorem items_framed {lines : List Bytes} (hlines : ∀ line ∈ lines, ¬ [cr, lf] <:+: line) :
    delimiting.items (lines.flatMap framed) = lines := by
  induction lines with
  | nil => exact Delimiting.items_of_none rfl
  | cons line lines ih =>
    have hnext : delimiting.next (framed line ++ lines.flatMap framed) =
        some (line, lines.flatMap framed) := by
      rw [framed, List.cons_append, List.cons_append, List.append_assoc]
      exact @nextLine_append [] line (by simp) (hlines line List.mem_cons_self) _
    rw [List.flatMap_cons, Delimiting.items_of_some hnext,
      ih fun later hmem => hlines later (List.mem_cons_of_mem _ hmem)]

end ResponseStream

/-! ## 3. Chunks -/

/-- **Chunks and malformed lines.**  What a stream of commands receives, and a stream of
    responses, is what its lines are parsed to one by one, if and only if in every push the
    waiting lines are all valid or the first is not, and in the last they are all valid or none
    is. -/
theorem at_streams_iff (chunks : List Bytes) {responseChunks lines : List Bytes}
    (hlines : ∀ line ∈ lines, ¬ [cr, lf] <:+: line)
    (hframed : responseChunks.flatten = lines.flatMap ResponseStream.framed) :
    (CommandStream.received chunks =
        Delimiting.parsedItems AtCommand.parse (chunks.flatten.splitOn cr).dropLast ↔
      CommandStream.Steady chunks) ∧
    (ResponseStream.received responseChunks = Delimiting.parsedItems AtResponse.parse lines ↔
      ResponseStream.Steady responseChunks) := by
  have hcommands := @Delimiting.received_new_iff _ _ _ CommandStream.delimiting
    AtCommand.parse chunks
  have hresponses := @Delimiting.received_new_iff _ _ _ ResponseStream.delimiting AtResponse.parse
    responseChunks
  rw [CommandStream.items_eq] at hcommands
  rw [hframed, ResponseStream.items_framed hlines] at hresponses
  exact ⟨hcommands, hresponses⟩

/-- A command and its end in two chunks, and a line end of a response cut in the middle. -/
theorem split_response_received :
    (CommandStream.received [[0x41, 0x54, 0x41], [cr]] =
        Delimiting.parsedItems AtCommand.parse
          ([[0x41, 0x54, 0x41], [cr]].flatten.splitOn cr).dropLast ↔
      CommandStream.Steady [[0x41, 0x54, 0x41], [cr]]) ∧
    (ResponseStream.received [[cr, lf, 0x4F, 0x4B, cr], [lf]] =
        Delimiting.parsedItems AtResponse.parse [[0x4F, 0x4B]] ↔
      ResponseStream.Steady [[cr, lf, 0x4F, 0x4B, cr], [lf]]) :=
  at_streams_iff [[0x41, 0x54, 0x41], [cr]] (by
    intro line hmem
    rw [List.mem_singleton.mp hmem]
    decide) rfl

/-- A command in front of a malformed line in its chunk. -/
theorem command_lost :
    ∃ chunks, CommandStream.received chunks ≠
      Delimiting.parsedItems AtCommand.parse (chunks.flatten.splitOn cr).dropLast := by
  refine ⟨[[0x41, 0x54, 0x41, cr, 0x58, cr]], ?_⟩
  have hlines : CommandStream.delimiting.items [0x41, 0x54, 0x41, cr, 0x58, cr] =
      [[0x41, 0x54, 0x41], [0x58]] := by
    rw [CommandStream.items_eq]
    decide
  intro hreceived
  rw [← CommandStream.items_eq] at hreceived
  have hsteady := (@Delimiting.received_new_iff _ _ _ CommandStream.delimiting AtCommand.parse
    [[0x41, 0x54, 0x41, cr, 0x58, cr]]).mp hreceived
  rw [Delimiting.Steady, Delimiting.Settled, List.nil_append, hlines] at hsteady
  rcases hsteady with hvalid | hinvalid
  · obtain ⟨command, hcommand⟩ := hvalid [0x58] (by decide)
    cases hcommand
  · exact hinvalid [0x41, 0x54, 0x41] (by decide) ⟨⟨"A", .none, []⟩, rfl⟩

end Bumble.At
