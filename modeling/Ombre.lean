import Ombre.Lib.Window
import Ombre.Lib.Except
import Ombre.Lib.Table
import Ombre.Lib.BlockCode
import Ombre.Lib.Tally
import Ombre.Lib.OrderedIndex
import Ombre.Lib.Codec
import Ombre.Lib.Digits
import Ombre.Basic.Types
import Ombre.Basic.Config
import Ombre.Basic.Difficulty
import Ombre.Basic.Amount
import Ombre.Serialization.Varint
import Ombre.Serialization.Base58
import Ombre.Serialization.BinaryArchive
import Ombre.Serialization.TxFormat
import Ombre.DB.State
import Ombre.DB.HardFork
import Ombre.DB.Ops
import Ombre.DB.Ledger
import Ombre.DB.AddTransaction
import Ombre.Core.Windows
import Ombre.Core.TimestampWindow
import Ombre.Core.Reward
import Ombre.Pool.TxPool
import Ombre.Pool.Consistency
import Ombre.Pool.AddTx
import Ombre.Pool.BlockTemplate
import Ombre.Core.Blockchain
import Ombre.Core.MainChain
import Ombre.Core.AltChain
import Ombre.Core.Run
import Ombre.DB.HardForkWindow
import Ombre.DB.HardForkReplay
import Ombre.P2P.Peerlist
import Ombre.P2P.PeerlistInv
import Ombre.Serialization.TxRoundTrip
import Ombre.Serialization.TxExtra
import Ombre.RingCT.Ecdh
import Ombre.Core.ProofOfWork
import Ombre.Core.CheckTxInputs
import Ombre.Common.ApplyPermutation
import Ombre.Lib.Tokens
import Ombre.Mnemonics.WordLists
import Ombre.Mnemonics.Language
import Ombre.Mnemonics.ElectrumWords
import Ombre.Core.Sync
import Ombre.Serialization.Address
