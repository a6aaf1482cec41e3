import Amplifier.Lib.Transaction
import Amplifier.Lib.Store
import Amplifier.Lib.Delimited
import Amplifier.Lib.Bytes
import Amplifier.Lib.Bank
import Amplifier.Lib.IndexedMap
import Amplifier.Lib.Select
import Amplifier.WasmStd.Threshold
import Amplifier.WasmStd.Voting
import Amplifier.WasmStd.TallyLaw
import Amplifier.WasmStd.Access
import Amplifier.RouterApi.Primitives
import Amplifier.RouterApi.HashPreimage
import Amplifier.Multisig.VerifierSet
import Amplifier.Multisig.State
import Amplifier.Multisig.Execute
import Amplifier.Multisig.Spec
import Amplifier.Multisig.Rekeying
import Amplifier.VotingVerifier.State
import Amplifier.VotingVerifier.Execute
import Amplifier.VotingVerifier.Spec
import Amplifier.VotingVerifier.Invariant
import Amplifier.VotingVerifier.Finality
import Amplifier.Rewards.State
import Amplifier.Rewards.Execute
import Amplifier.Rewards.Spec
import Amplifier.Rewards.Payout
import Amplifier.Rewards.Epochs
import Amplifier.Rewards.Split
import Amplifier.ServiceRegistry.State
import Amplifier.ServiceRegistry.Execute
import Amplifier.ServiceRegistry.Spec
import Amplifier.ServiceRegistry.Accounting
import Amplifier.ServiceRegistry.Query
import Amplifier.WasmStd.PollRun
import Amplifier.Router.State
import Amplifier.Router.Execute
import Amplifier.Router.Gateways
import Amplifier.Router.Routing
import Amplifier.Ampd.MsgQueue
import Amplifier.Its.Scaling
import Amplifier.Lib.Uint256
import Amplifier.Lib.Text
import Amplifier.Xrpl.Amount
import Amplifier.Starknet.CheckedFelt
import Amplifier.Lib.Greedy
import Amplifier.Multisig.Optimize
import Amplifier.EvmGateway.Proof
import Amplifier.Lib.Abi
import Amplifier.ItsAbiTranslator.Abi
import Amplifier.Lib.Radix
import Amplifier.WasmStd.MsgId
import Amplifier.Gateway.Contract
import Amplifier.Gateway.Incoming
import Amplifier.AxelarCoreStd.Nexus
import Amplifier.AxelarnetGateway.State
import Amplifier.AxelarnetGateway.Execute
import Amplifier.AxelarnetGateway.Spec
import Amplifier.AxelarnetGateway.Invariant
