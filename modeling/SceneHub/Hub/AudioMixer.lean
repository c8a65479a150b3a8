import Mathlib.Tactic.Common

/-!
# A Channel of the Mixer

The part of `audio_player_mixer.c` that decides how loud a channel is: when it is read, how it
is faded in and out, and what starts, finishes and stops it. The samples that are received are
given from outside, up to as many as there are.

## Main definitions

* `applyFadeIn`, `applyFadeOut`: The fades of a block of frames.
* `MixerStep`, `mixerStep`: What can happen to a channel, and what is mixed.
-/

namespace SceneHub.Hub

/-- The samples of a frame, left and right. -/
abbrev Frame := Int16 × Int16

/-- `AUDIO_MIXER_CHUNK_FRAMES`. -/
def chunkFrames : Nat := 256

/-- `AUDIO_MIXER_FADE_IN_FRAMES`, of 32 ms. -/
def fadeInFrames : Nat := 44100 * 32 / 1000

/-- `AUDIO_MIXER_FINISH_FADE_FRAMES`, of 24 ms. -/
def finishFadeFrames : Nat := 44100 * 24 / 1000

/-- `AUDIO_MIXER_PREROLL_BYTES`. -/
def prerollBytes : Nat := 8192 * 4

/-- A channel, with the bytes in its stream buffer. -/
structure MixerChannel where
  active : Bool := false
  audible : Bool := false
  primed : Bool := false
  fadeInRemaining : Nat := 0
  fadeOutTotal : Nat := 0
  fadeOutRemaining : Nat := 0
  fadeOutMuted : Bool := false
  finishFadePending : Bool := false
  available : Nat := 0
  deriving DecidableEq, Repr

/-! ### Fades -/

/-- A sample times a fraction, multiplied in `int32_t`. -/
def scaleSample (gain total : Nat) (sample : Int16) : Int16 :=
  .ofInt (((sample.toInt * gain).bmod 4294967296).tdiv total)

def scaleFrame (gain total : Nat) (frame : Frame) : Frame :=
  (scaleSample gain total frame.1, scaleSample gain total frame.2)

def pcmMaxAbs (pcm : List Frame) : Nat :=
  min 32767 (pcm.foldl (fun m frame => max m (max frame.1.toInt.natAbs frame.2.toInt.natAbs)) 0)

/-- The loop of `apply_fade_in`, with the frames that remain behind it. -/
def fadeInLoop : (remaining : Nat) → List Frame → List Frame × Nat
  | 0, pcm => (pcm, 0)
  | remaining + 1, [] => ([], remaining + 1)
  | remaining + 1, frame :: pcm =>
    let rest := fadeInLoop remaining pcm
    (scaleFrame (fadeInFrames - (remaining + 1) + 1) fadeInFrames frame :: rest.1, rest.2)

def applyFadeIn (c : MixerChannel) (pcm : List Frame) : List Frame × MixerChannel :=
  if pcm = [] ∨ c.fadeInRemaining = 0 then (pcm, c)
  else if c.fadeInRemaining = fadeInFrames ∧ pcmMaxAbs pcm < 96 then (pcm, c)
  else
    let faded := fadeInLoop c.fadeInRemaining pcm
    (faded.1, { c with fadeInRemaining := faded.2 })

/-- The loop of `apply_fade_out`. What is behind the last frame of the fade is silent. -/
def fadeOutLoop (total : Nat) : (remaining : Nat) → List Frame → List Frame × Nat
  | 0, pcm => (pcm.map fun _ => (0, 0), 0)
  | remaining + 1, [] => ([], remaining + 1)
  | remaining + 1, frame :: pcm =>
    let rest := fadeOutLoop total remaining pcm
    (scaleFrame (remaining + 1) total frame :: rest.1, rest.2)

def applyFadeOut (c : MixerChannel) (pcm : List Frame) : List Frame × MixerChannel :=
  if pcm = [] then (pcm, c)
  else if c.fadeOutMuted then (pcm.map fun _ => (0, 0), c)
  else if c.fadeOutRemaining = 0 ∨ c.fadeOutTotal = 0 then (pcm, c)
  else
    let faded := fadeOutLoop c.fadeOutTotal c.fadeOutRemaining pcm
    (faded.1, { c with fadeOutRemaining := faded.2, fadeOutMuted := faded.2 = 0 })

/-! ### Channels -/

/-- A channel without a fade, and with none to come. -/
def MixerChannel.unfaded (c : MixerChannel) : MixerChannel :=
  { c with fadeOutTotal := 0, fadeOutRemaining := 0, fadeOutMuted := false
           finishFadePending := false }

/-- A channel that is faded out from the next frame on. -/
def MixerChannel.fading (c : MixerChannel) (frames : Nat) : MixerChannel :=
  { c with fadeOutTotal := frames, fadeOutRemaining := frames, fadeOutMuted := false }

/-- `channel_should_read`. -/
def channelShouldRead (c : MixerChannel) : Bool × MixerChannel :=
  if !c.active then
    if c.available = 0 then
      (false, { c.unfaded with audible := false, primed := false, fadeInRemaining := 0 })
    else if c.finishFadePending ∧ c.fadeOutRemaining = 0 ∧ c.available ≤ finishFadeFrames * 4 then
      (true, { c.fading finishFadeFrames with finishFadePending := false })
    else (true, c)
  else
    let c := if !c.primed && prerollBytes ≤ c.available then { c with primed := true } else c
    (c.primed && c.audible, c)

/-- `audio_player_mixer_start_stream_internal`. -/
def startStream (c : MixerChannel) (audible : Bool) : MixerChannel :=
  { c.unfaded with
    active := true, audible, primed := false, available := 0
    fadeInRemaining := if audible then fadeInFrames else 0 }

def finishStream (c : MixerChannel) : MixerChannel :=
  if 0 < c.available ∧ c.audible then
    if c.available ≤ finishFadeFrames * 4 then { c.fading finishFadeFrames with active := false }
    else { c.unfaded with active := false, finishFadePending := true }
  else
    { c.unfaded with active := false, audible := false, primed := false, fadeInRemaining := 0 }

def stopStream (c : MixerChannel) : MixerChannel :=
  { c.unfaded with
    active := false, audible := false, primed := false, fadeInRemaining := 0, available := 0 }

/-- The frames of a fade out, computed in `uint32_t`. -/
def fadeOutFrames (durationMs : Int) : Nat :=
  max 1 ((44100 * durationMs % 4294967296).toNat / 1000)

def fadeOutStream (c : MixerChannel) (durationMs : Int) : MixerChannel :=
  if durationMs ≤ 0 then stopStream c
  else if c.active ∨ 0 < c.available then
    { c.fading (fadeOutFrames durationMs) with finishFadePending := false }
  else c

def setStreamAudible (c : MixerChannel) (audible : Bool) : MixerChannel :=
  if c.active ∧ c.audible ≠ audible then
    { c with audible, fadeInRemaining := if audible then fadeInFrames else c.fadeInRemaining }
  else c

/-- The steps of a channel: calls, frames that `audio_player_mixer_write` sends to its stream
    buffer, and a turn of `audio_mixer_task` with what it receives. -/
inductive MixerStep where
  | start (audible : Bool)
  | finish
  | fadeOut (durationMs : Int)
  | setAudible (audible : Bool)
  | stop
  | write (frames : Nat)
  | mix (pcm : List Frame)
  deriving DecidableEq

/-- What `audio_mixer_task` fades out: what it received, or silence while a fade is not over. -/
def mixBlock (c : MixerChannel) (pcm : List Frame) : List Frame :=
  if pcm = [] ∧ 0 < c.fadeOutRemaining then List.replicate chunkFrames (0, 0) else pcm

/-- A channel behind a step. A turn receives no more than there is. -/
def mixerStep (c : MixerChannel) : MixerStep → Option MixerChannel
  | .start audible => some (startStream c audible)
  | .finish => some (finishStream c)
  | .fadeOut durationMs => some (fadeOutStream c durationMs)
  | .setAudible audible => some (setStreamAudible c audible)
  | .stop => some (stopStream c)
  | .write frames => some { c with available := c.available + 4 * frames }
  | .mix pcm =>
    let read := channelShouldRead c
    if pcm.length ≤ (if read.1 then min chunkFrames (read.2.available / 4) else 0) then
      let received := { read.2 with available := read.2.available - 4 * pcm.length }
      let fadedIn := applyFadeIn received pcm
      some (applyFadeOut fadedIn.2 (mixBlock fadedIn.2 fadedIn.1)).2
    else none

end SceneHub.Hub
