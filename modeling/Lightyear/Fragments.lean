import Lightyear.Chunks
import Lightyear.Compression
import Lightyear.Maps

/-!
`channel/fragments`: cutting a message into fragments and putting it together again.
-/
namespace Lightyear.Fragments
open Lightyear.Ids Lightyear.Message Lightyear.Compression

/-- `FragmentSender`; `set_fragment_size` asserts that the size is positive. -/
structure FragmentSender where
  fragment_size : Nat
  positive : 0 < fragment_size

def fragment_compression (compression : CompressionConfig) : Option FragmentCompression :=
  match compression.algorithm with
  | some .Lz4 => some .Lz4
  | none => none

namespace FragmentSender

def build_fragments_with_compression (self : FragmentSender) (fragment_message_id : MessageId) (fragment_bytes : Bytes)
    (compression : FragmentCompression) : List FragmentData :=
  let chunks := Chunks.chunks self.fragment_size fragment_bytes
  chunks.zipIdx.map fun (chunk,fragment_index) =>
    { message_id := fragment_message_id,
      fragment_id := fragment_index,
      num_fragments := chunks.length,
      compression := if fragment_index = 0 then some compression else none,
      bytes := chunk }

/-- `None` stands for `unreachable!`. -/
def build_fragments (self : FragmentSender) (fragment_message_id : MessageId) (fragment_bytes : Bytes) :
    Option (List FragmentData) :=
  if fragment_bytes.length ≤ self.fragment_size then none
  else some (self.build_fragments_with_compression fragment_message_id fragment_bytes .None)

def build_fragments_for_message (lz4 : Lz4) (self : FragmentSender) (fragment_message_id : MessageId) (message : Bytes)
    (compression : CompressionConfig) : Option (List FragmentData) :=
  if message.length ≤ self.fragment_size then none
  else
    match compress_fragment lz4 message compression,fragment_compression compression with
    | .ok (.Compressed payload _ _),some fragment_compression =>
      some (self.build_fragments_with_compression fragment_message_id payload fragment_compression)
    | _,_ => self.build_fragments fragment_message_id message

end FragmentSender

def checked_mul (a b : Nat) : Option Nat := if a * b ≤ usize_max then some (a * b) else none
def checked_add (a b : Nat) : Option Nat := if a + b ≤ usize_max then some (a + b) else none

theorem checked_mul_some {a b : Nat} (fits : a * b ≤ usize_max) : checked_mul a b = some (a * b) := if_pos fits
theorem checked_add_some {a b : Nat} (fits : a + b ≤ usize_max) : checked_add a b = some (a + b) := if_pos fits

structure FragmentConstructor where
  num_fragments : Nat
  fragment_size : Nat
  num_received_fragments : Nat
  received : List Bool
  bytes : Bytes
  tick : Tick
  compression : Option FragmentCompression
  last_received : Option Duration
deriving DecidableEq, Repr

namespace FragmentConstructor

def new (tick : Tick) (num_fragments fragment_size : Nat) : Except ChannelReceiveError FragmentConstructor :=
  match checked_mul num_fragments fragment_size with
  | none => .error .FragmentedMessageSizeOverflow
  | some max_message_size =>
    .ok { num_fragments,fragment_size,num_received_fragments := 0,received := List.replicate num_fragments false,
          bytes := List.replicate max_message_size 0,tick,compression := none,last_received := none }

def set_compression (self : FragmentConstructor) (compression : FragmentCompression) :
    FragmentConstructor × Except ChannelReceiveError Unit :=
  match self.compression with
  | some expected =>
    if expected ≠ compression then
      (self,.error (.FragmentCompressionMismatch expected.as_str compression.as_str))
    else (self,.ok ())
  | none => ({ self with compression := some compression },.ok ())

/-- The branch of `FragmentConstructor::receive_fragment` for a fragment that is not received yet. -/
def store (self : FragmentConstructor) (fragment_index : Nat) (bytes : Bytes) :
    FragmentConstructor × Except ChannelReceiveError Unit :=
  let self := { self with
    received := self.received.set fragment_index true,num_received_fragments := self.num_received_fragments + 1 }
  let resized :=
    if fragment_index = self.num_fragments - 1 then
      ((checked_mul (self.num_fragments - 1) self.fragment_size).bind (checked_add · bytes.length)).map
        (Chunks.resize self.bytes · 0)
    else some self.bytes
  match resized with
  | none => (self,.error .FragmentedMessageSizeOverflow)
  | some buffer =>
    let self := { self with bytes := buffer }
    match checked_mul fragment_index self.fragment_size with
    | none => (self,.error .FragmentedMessageSizeOverflow)
    | some start =>
      match checked_add start bytes.length with
      | none => (self,.error .FragmentedMessageSizeOverflow)
      | some _ => ({ self with bytes := Chunks.splice self.bytes start bytes },.ok ())

def receive_fragment (self : FragmentConstructor) (fragment_index : Nat) (bytes : Bytes)
    (received_time : Option Duration) : FragmentConstructor × Except ChannelReceiveError (Option (Tick × Bytes)) :=
  let self := { self with last_received := received_time }
  let is_last_fragment := fragment_index = self.num_fragments - 1
  if ¬ is_last_fragment ∧ bytes.length ≠ self.fragment_size then
    (self,.error (.InvalidNonFinalFragmentSize bytes.length self.fragment_size))
  else if is_last_fragment ∧ bytes.length > self.fragment_size then
    (self,.error (.InvalidFinalFragmentSize bytes.length self.fragment_size))
  else
    -- The caller has checked that the index is inside `received`.
    match if self.received[fragment_index]?.getD false then (self,.ok ()) else self.store fragment_index bytes with
    | (self,.error error) => (self,.error error)
    | (self,.ok ()) =>
      if self.num_received_fragments = self.num_fragments then
        -- `mem::take`
        ({ self with bytes := [] },.ok (some (self.tick,self.bytes)))
      else (self,.ok none)

end FragmentConstructor

/-- The error that a failed decompression has on a channel. -/
def map_fragment_decompression_error : PacketError → ChannelReceiveError
  | .UnsupportedCompression => .UnsupportedFragmentCompression FragmentCompression.Lz4.as_str
  | .DecompressionFailed => .FragmentDecompressionFailed
  | .DecompressedPayloadTooLarge actual limit => .FragmentDecompressedPayloadTooLarge actual limit
  | _ => .FragmentDecompressionFailed

def config_for_fragment_compression (compression : FragmentCompression) (config : CompressionConfig) :
    Except ChannelReceiveError CompressionConfig :=
  match compression with
  | .None => .ok config
  | .Lz4 =>
    if config.algorithm = some .Lz4 then .ok config
    else .error (.UnsupportedFragmentCompression compression.as_str)

def decompress_fragment_payload (lz4 : Lz4) (compression : FragmentCompression) (payload : Bytes)
    (config : CompressionConfig) : Except ChannelReceiveError Bytes :=
  match compression with
  | .None => .ok payload
  | .Lz4 =>
    match config_for_fragment_compression compression config with
    | .error error => .error error
    | .ok config => (decompress_payload lz4 payload config).mapError map_fragment_decompression_error

/-- `FragmentReceiver`; `set_fragment_size` asserts that the size is positive. -/
structure FragmentReceiver where
  fragment_messages : Maps.Map MessageId FragmentConstructor
  fragment_size : Nat
  positive : 0 < fragment_size

namespace FragmentReceiver

/-- `new`, then `set_fragment_size`. -/
def new (fragment_size : Nat) (positive : 0 < fragment_size) : FragmentReceiver := ⟨∅,fragment_size,positive⟩

def cleanup (self : FragmentReceiver) (cleanup_time : Duration) : FragmentReceiver :=
  { self with
    fragment_messages := Maps.retain (fun _ c => (c.last_received.map fun t => decide (t > cleanup_time)).getD true)
      self.fragment_messages }

/-- The constructor of the message, made if there is none. -/
def entry (self : FragmentReceiver) (message_id : MessageId) (remote_sent_tick : Tick) (num_fragments : Nat) :
    Except ChannelReceiveError FragmentConstructor :=
  match self.fragment_messages.lookup message_id with
  | some constructor => .ok constructor
  | none => FragmentConstructor.new remote_sent_tick num_fragments self.fragment_size

/-- What `receive_fragment` does to the constructor before the fragment is written. -/
def prepare (fragment_message : FragmentConstructor) (fragment : FragmentData) :
    FragmentConstructor × Except ChannelReceiveError Unit :=
  if fragment_message.num_fragments ≠ fragment.num_fragments then
    (fragment_message,.error (.FragmentCountMismatch fragment_message.num_fragments fragment.num_fragments))
  else
    match fragment.compression with
    | some fragment_compression => fragment_message.set_compression fragment_compression
    | none =>
      if fragment.fragment_id = 0 then (fragment_message,.error .MissingFragmentCompression)
      else (fragment_message,.ok ())

def receive_fragment (lz4 : Lz4) (self : FragmentReceiver) (fragment : FragmentData) (remote_sent_tick : Tick)
    (current_time : Option Duration) (compression : CompressionConfig) :
    FragmentReceiver × Except ChannelReceiveError (Option (Tick × Bytes)) :=
  let num_fragments := fragment.num_fragments
  let fragment_index := fragment.fragment_id
  if num_fragments = 0 then (self,.error (.InvalidFragmentCount num_fragments))
  else if fragment_index ≥ num_fragments then (self,.error (.InvalidFragmentIndex fragment_index num_fragments))
  else if num_fragments > usize_max then (self,.error .FragmentedMessageSizeOverflow)
  else
    let message_id := fragment.message_id
    let keep (c : FragmentConstructor) : FragmentReceiver :=
      { self with fragment_messages := self.fragment_messages.insert message_id c }
    match self.entry message_id remote_sent_tick num_fragments with
    | .error error => (self,.error error)
    | .ok fragment_message =>
      match prepare fragment_message fragment with
      | (fragment_message,.error error) => (keep fragment_message,.error error)
      | (fragment_message,.ok ()) =>
        match fragment_message.receive_fragment fragment_index fragment.bytes current_time with
        | (fragment_message,.error error) => (keep fragment_message,.error error)
        | (fragment_message,.ok none) => (keep fragment_message,.ok none)
        | (fragment_message,.ok (some (tick,payload))) =>
          match fragment_message.compression with
          | none => (keep fragment_message,.error .MissingFragmentCompression)
          | some fragment_compression =>
            ({ self with fragment_messages := self.fragment_messages.erase message_id },
              (decompress_fragment_payload lz4 fragment_compression payload compression).map
                fun payload => some (tick,payload))

end FragmentReceiver

end Lightyear.Fragments
