/-
  Reports on what stands behind a header.

  A header takes part in a report by its own fields and by the five words that are counted
  for it.  So the report on a body behind a header is that on the body alone, with the header
  put in front and every offset five words later (`ofWords_encode_append`); an error stays
  the same but for the place that it names.

  Main statement: the place where a stream starts is only counted, for streams and for dumps
  (`start_only_counted`).
-/
import Spirv.Proofs.Report.Walk
import Spirv.Proofs.Stream.Start

namespace Spirv

namespace Report

/-- The record of the same instruction `n` words later. -/
def Record.moved (n : Nat) (record : Record) : Record :=
  { record with offset := record.offset + n }

theorem recordsFrom_add (offset n : Nat) (insts : List Instruction) :
    recordsFrom (offset + n) insts = (recordsFrom offset insts).map (Record.moved n) := by
  induction insts generalizing offset with
  | nil => rfl
  | cons inst insts ih =>
    rw [recordsFrom, recordsFrom, List.map_cons, ← ih, Nat.add_right_comm]
    rfl

/-! ## A body behind a header -/

/-- The report on instructions that no header stands in front of. -/
def bare (insts : List Instruction) : Report :=
  ⟨none, recordsFrom 0 insts⟩

/-- The report on the same instructions behind a header. -/
def behind (header : ModuleHeader) (insts : List Instruction) : Report :=
  ⟨some header, recordsFrom ModuleHeader.length insts⟩

/-- Behind a header the records are the same, five words later. -/
theorem behind_eq (header : ModuleHeader) (insts : List Instruction) :
    behind header insts =
      ⟨some header, (bare insts).records.map (Record.moved ModuleHeader.length)⟩ := by
  rw [behind, bare, ← recordsFrom_add, Nat.zero_add]

theorem ofWords_of_no_header (order : ByteOrder) (body : List Word) :
    ofWords body ⟨order, false⟩ = (decodeAll body order).map bare := by
  rw [ofWords_eq, walk_collect_of_no_header rfl]
  cases decodeAll body order <;> rfl

theorem walk_encode_append_collect (order : ByteOrder) (header : ModuleHeader)
    (body : List Word) :
    (walk (header.encode order ++ body) ⟨order, true⟩).collect =
      (decodeAll body order).mapError (Error.moved ModuleHeader.length) := by
  have hwalk : walk (header.encode order ++ body) ⟨order, true⟩ =
      .startingAt (header.encode order ++ body) order ModuleHeader.length := rfl
  have hdrop : (header.encode order ++ body).drop ModuleHeader.length = body := by
    rw [← header.length_encode order, List.drop_left]
  rw [hwalk, Stream.collect_startingAt, hdrop]

/-- **A header is only counted.**  The words behind a header are reported on as they are
    alone, five words later. -/
theorem ofWords_encode_append (order : ByteOrder) (header : ModuleHeader) (body : List Word) :
    ofWords (header.encode order ++ body) ⟨order, true⟩ =
      ((decodeAll body order).map (behind header)).mapError
        (Error.moved ModuleHeader.length) := by
  have hheader : header? (header.encode order ++ body) ⟨order, true⟩ = .ok (some header) := by
    rw [header?, if_pos rfl, ModuleHeader.parse_encode]
    rfl
  rw [ofWords_eq, hheader, walk_encode_append_collect]
  cases decodeAll body order <;> rfl

end Report

/-! ## What a start decides -/

open Spirv.Stream (startingAt ofWords)

/-- **A start is only counted.**  A stream that starts at an offset yields, call by call, what
    a stream over the words from there yields; its own offset and the places that its errors
    name are later by that many words.  Behind the end of the words it yields nothing and
    stays.  After any calls that yielded no error, the stream that starts at the offset is the
    one that is left, and it yields the items that are left.

    A dump of a header and a body, where a header is asked for, is made or refused as a dump
    of the body alone, where none is: with the same records, five words later, or for the same
    error, five words later. -/
theorem start_only_counted (words : List Word) (order : ByteOrder) :
    (∀ start n,
      let s := (startingAt words order start).after n
      let t := (ofWords (words.drop start) order).after n
      s.offset = t.offset + start ∧
        s.next.map Prod.fst = (t.next.map Prod.fst).map (Except.mapError (Error.moved start))) ∧
    (∀ start, (startingAt words order start).items =
      (ofWords (words.drop start) order).items.map (Except.mapError (Error.moved start))) ∧
    (∀ start, words.length ≤ start →
      (startingAt words order start).items = [] ∧
        ∀ n, ((startingAt words order start).after n).next = none ∧
          ((startingAt words order start).after n).offset = start) ∧
    (∀ start n, (∀ e, .error e ∉ (startingAt words order start).items.take n) →
      let s := (startingAt words order start).after n
      startingAt words order s.offset = s ∧
        (startingAt words order s.offset).items =
          (startingAt words order start).items.drop n) ∧
    ∀ front header bytes alone,
      front.length = ModuleHeader.length → ModuleHeader.parse front order = .ok header →
      Binary.words bytes = .ok (front ++ words) → Binary.words alone = .ok words →
      (∃ records, ∀ json,
        let bare : Report := ⟨none, records⟩
        let whole : Report :=
          ⟨some header, records.map (Report.Record.moved ModuleHeader.length)⟩
        Command.dumpText alone ⟨order, false⟩ json =
            .ok (if json then bare.document else bare.listing) ∧
          Command.dumpText bytes ⟨order, true⟩ json =
            .ok (if json then whole.document else whole.listing)) ∨
      ∃ e, ∀ json,
        Command.dumpText alone ⟨order, false⟩ json = .error e ∧
          Command.dumpText bytes ⟨order, true⟩ json =
            .error (e.moved ModuleHeader.length) := by
  refine ⟨?_, Stream.items_startingAt words order, ?_, ?_, ?_⟩
  · intro start n s t
    have hmoved : s = t.moved start := by
      show (startingAt words order start).after n = _
      rw [Stream.startingAt_eq_moved, Stream.after_image (Stream.next_moved start)]
    rw [hmoved]
    exact ⟨t.offset_moved start, Stream.fst_next_image (Stream.next_moved start) t⟩
  · intro start h
    have hnone := Stream.next_startingAt_of_length_le h order
    refine ⟨Stream.items_of_next_none hnone, ?_⟩
    intro n
    rw [Stream.after_of_next_none hnone]
    exact ⟨hnone, rfl⟩
  · intro start n hok s
    have hs : startingAt words order s.offset = s := Stream.startingAt_offset_after hok
    refine ⟨hs, ?_⟩
    rw [hs]
    exact Stream.items_after n _
  · intro front header bytes alone hlen hparse hbytes halone
    obtain ⟨rest, rfl⟩ := ModuleHeader.parse_eq_ok_iff.1 hparse
    obtain rfl : rest = [] := by
      rw [List.length_append, header.length_encode] at hlen
      exact List.length_eq_zero_iff.1 (by omega)
    rw [List.append_nil] at hbytes
    have hwhole := Report.ofBytes_of_words ⟨order, true⟩ hbytes
    have hbare := Report.ofBytes_of_words ⟨order, false⟩ halone
    rw [Report.ofWords_encode_append] at hwhole
    rw [Report.ofWords_of_no_header] at hbare
    unfold Command.dumpText
    rw [hwhole, hbare]
    cases decodeAll words order with
    | error e => exact .inr ⟨e, fun json => ⟨rfl, rfl⟩⟩
    | ok insts =>
      refine .inl ⟨(Report.bare insts).records, fun json => ⟨rfl, ?_⟩⟩
      rw [← Report.behind_eq]
      rfl

end Spirv
