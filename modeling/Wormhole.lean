import Wormhole.Lib.Transition
import Wormhole.Alephium.GuardianQuorum
import Wormhole.Alephium.Governance
import Wormhole.Ethereum.Messages
import Wormhole.Guardian.Vaa
import Wormhole.VaaAgreement
import Wormhole.Guardian.Db
import Wormhole.Guardian.InboundVaa
import Wormhole.Ethereum.NFTImplementation
import Wormhole.Ethereum.NFTBridge
import Wormhole.Alephium.Endpoint
import Wormhole.Alephium.Publication
import Wormhole.Guardian.AlephiumEvent
import Wormhole.Guardian.ChainView
import Wormhole.Guardian.Confirmations
import Wormhole.Guardian.ForkHandling
import Wormhole.Guardian.LastHeight
import Wormhole.Guardian.WrapperTrust
import Wormhole.Alephium.Callers
import Wormhole.Alephium.Custody
import Wormhole.Alephium.MessageIds
import Wormhole.Alephium.Outstanding
import Wormhole.Alephium.Rotation
import Wormhole.Ethereum.Accounting
import Wormhole.Ethereum.Emitters
import Wormhole.Ethereum.Governance
import Wormhole.Guardian.Aggregation
import Wormhole.Guardian.Cleanup
import Wormhole.Guardian.Codec
import Wormhole.Guardian.Reobservation
import Wormhole.Terra.Core
import Wormhole.Terra.NativeCoins
import Wormhole.Terra.Quorum
import Wormhole.TransferFees
import Wormhole.TransferFormat
import Wormhole.GovernancePayloads
import Wormhole.Guardian.EthWatcher
import Wormhole.Solana.PostedVaa
import Wormhole.Solana.Expiry
import Wormhole.Solana.Endpoints
import Wormhole.Guardian.NilGuardianSet
import Wormhole.Ethereum.SplCache
import Wormhole.Ethereum.WrappedAssets
import Wormhole.Ethereum.WrappedSupply
import Wormhole.NftFormat
import Wormhole.Terra.NftHolder
import Wormhole.Terra.NftMetadata
import Wormhole.AlephiumTransfers
import Wormhole.Guardian.Supervisor
import Wormhole.Terra.TransferMessages
import Wormhole.Terra.Completions
import Wormhole.Terra.LockedTokens
import Wormhole.Terra.NativeSolvency
import Wormhole.Ethereum.Migrator
import Wormhole.Solana.PoolSolvency
import Wormhole.Sdk.Vaa
import Wormhole.Ethereum.NFTOwnership
import Wormhole.Guardian.SolanaWatcher
import Wormhole.Guardian.SolanaMessages
import Wormhole.Solana.MessageFees
import Wormhole.Solana.NftCustody
import Wormhole.Solana.Replay
import Wormhole.Solana.NativeCustody
import Wormhole.Guardian.Settlement
import Wormhole.Alephium.Pruning
import Wormhole.Guardian.PayloadIntegrity
import Wormhole.Guardian.LookupCaches
import Wormhole.Guardian.Multiplexer
import Wormhole.Sdk.Panics
import Wormhole.NftRedemption
import Wormhole.Solana.Attestations
import Wormhole.Terra.TokenContract
import Wormhole.Terra.WrappedRegistry
import Wormhole.Ethereum.Attestations
import Wormhole.Terra.Attestations
import Wormhole.Attestations
import Wormhole.Algorand.VaaProcessor
import Wormhole.Algorand.Verification
import Wormhole.Solana.GuardianSetChange
import Wormhole.DecoderAgreement
import Wormhole.Terra.RelayerFees
import Wormhole.Terra.MessageFees
import Wormhole.Terra.TokenIds
import Wormhole.Guardian.SequenceGap
import Wormhole.Guardian.Heartbeats
import Wormhole.Guardian.Spy
import Wormhole.Guardian.LateObservations
import Wormhole.GovernanceExecution
import Wormhole.QuorumAgreement
import Wormhole.Solana.DerivedAccounts
import Wormhole.JsSdk.Operands
import Wormhole.Solana.SignatureBounds
import Wormhole.Lib.Interleaving
import Wormhole.Guardian.Handled
import Wormhole.Guardian.Collected
import Wormhole.Network
import Wormhole.Delivery
import Wormhole.Lib.Counters
import Wormhole.Ethereum.MessageIds
import Wormhole.Terra.MessageIds
import Wormhole.Solana.MessageIds
import Wormhole.Lib.Base64
import Wormhole.Guardian.TerraWatcher
