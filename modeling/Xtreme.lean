import Xtreme.Library.Tape
import Xtreme.Library.Numeral
import Xtreme.Stream.BufferedRefinement
import Xtreme.Stream.AnyStream
import Xtreme.LfRfid.Em4100Frames
import Xtreme.LfRfid.H10301Frames
import Xtreme.LfRfid.FdxBFrames
import Xtreme.LfRfid.GallagherFrames
import Xtreme.Infrared.Dispatch
import Xtreme.Infrared.DecoderBounds
import Xtreme.Infrared.RepeatRoundTrip
import Xtreme.Infrared.ToggleRoundTrip
import Xtreme.Infrared.NoiseRecovery
import Xtreme.Nfc.UltralightLocks
import Xtreme.Nfc.UltralightSizes
import Xtreme.Nfc.UltralightSecrets
import Xtreme.Nfc.UltralightPasswords
import Xtreme.Nfc.ClassicWrites
import Xtreme.Nfc.Iso15693Bounds
import Xtreme.Nfc.Iso15693Locks
import Xtreme.Nfc.Iso15693Guards
import Xtreme.Nfc.Slix
import Xtreme.Nfc.SlixListener
import Xtreme.Nfc.SlixProtection
import Xtreme.Nfc.Iso15693Quiet
import Xtreme.SubGhz.SecPlusV1
import Xtreme.SubGhz.SecPlusV2RoundTrip
import Xtreme.SubGhz.CameAtomoRoundTrip
import Xtreme.OneWire.SearchWalk
import Xtreme.U2f.HidMessages
import Xtreme.U2f.TokenRuns
import Xtreme.U2f.KeyHandles
import Xtreme.Expansion.ExpansionFrames
import Xtreme.Expansion.SessionRuns
import Xtreme.Storage.StorageRuns
import Xtreme.Nfc.Iso15693Reload
import Xtreme.Stream.EndOfFile
import Xtreme.Stream.StringRefinement
import Xtreme.Stream.StreamLines
import Xtreme.Toolbox.BitBufferParity
import Xtreme.Toolbox.BitBufferAppend
import Xtreme.Flipper.ValueCounts
import Xtreme.Rpc.SessionPromises
import Xtreme.IButton.MetakomFrames
import Xtreme.LfRfid.RawEmulate
import Xtreme.BitLib.BitNumbers
import Xtreme.BitLib.AddParity
import Xtreme.LfRfid.Pyramid
import Xtreme.LfRfid.Fsk
import Xtreme.LfRfid.PacStanley
import Xtreme.SubGhz.KeeloqCommon
import Xtreme.SubGhz.NiceFlorS
import Xtreme.SubGhz.AlutechAt4n
import Xtreme.Nfc.FrameCrc
import Xtreme.Nfc.CrcAgreement
import Xtreme.Nfc.ClassicValues
import Xtreme.Nfc.MirrorBoundaries
import Xtreme.Nfc.NfcDeviceLoad
import Xtreme.Nfc.UltralightShown
import Xtreme.Nfc.UltralightSteps
import Xtreme.Nfc.MirrorImage
import Xtreme.Nfc.WriteReads
import Xtreme.Nfc.Iso15693MultiWrite
import Xtreme.Nfc.Iso15693Eof
import Xtreme.Nfc.Iso15693SystemInfo
import Xtreme.Toolbox.SimpleArray
import Xtreme.Nfc.MfDesfire
import Xtreme.SubGhz.BlocksEncoder
import Xtreme.SubGhz.CameAtomoRoom
import Xtreme.SubGhz.BinRaw
import Xtreme.SubGhz.BinRawGlue
import Xtreme.SubGhz.BinRawFile
import Xtreme.SubGhz.RawRecorder
import Xtreme.SubGhz.KeystoreSlices
import Xtreme.Toolbox.KeysDictRuns
import Xtreme.Toolbox.CompressCalls
import Xtreme.Toolbox.PulseJoinerSignal
import Xtreme.Toolbox.BufferStreamRuns
import Xtreme.Toolbox.DirWalkOrder
import Xtreme.Toolbox.Args
import Xtreme.Toolbox.PathParts
import Xtreme.Storage.AliasRequests
import Xtreme.Expansion.ExpansionServiceRuns
import Xtreme.Storage.EquivalentPaths
import Xtreme.Rpc.StorageReplies
import Xtreme.Toolbox.DateTime
import Xtreme.Toolbox.Crc32
import Xtreme.U2f.StaleBytes
import Xtreme.U2f.ChannelLocks
